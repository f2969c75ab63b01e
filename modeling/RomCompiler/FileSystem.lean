import RomCompiler.FileSystem.Access
import RomCompiler.FileSystem.Tree

/-! # File systems

A file system is a tree of files with a working directory. Its operations follow paths as the
system calls do, with the same order among the reasons to refuse one.
- **`NameSource`** — where the names of temporary files come from; they are always new.
- **`FileSystem`** — the tree, the working directory and a source of names.
- **`FileSystem.createTemporary`**, **`fill`**, **`rename`**, **`discard`**, **`read`** — the
  operations of `FileAccess`, which a state monad over file systems has by them.
- **`FileSystem.write`**, **`makeDirectory`**, **`remove`** — changes of the tree by others. -/

namespace RomCompiler

/-! ## The names of temporary files -/

/-- The name of a temporary file with the given suffix: `.tmp` and this suffix. -/
def temporaryName (suffix : Text) : Text := ".tmp".toList ++ suffix

/-- **Where the suffixes of temporary names come from.** -/
structure NameSource where
  /-- The next suffix, when a directory has the given names. -/
  draw : List Text → Text
  /-- The name with that suffix is a new one. -/
  temporaryName_draw_notMem : ∀ taken, temporaryName (draw taken) ∉ taken

/-- A name that is longer than all names together is none of them. -/
theorem notMem_of_length_flatten_lt {taken : List Text} {name : Text}
    (h : taken.flatten.length < name.length) : name ∉ taken := by
  intro hmem
  have hle : name.length ≤ taken.flatten.length := (List.sublist_flatten_of_mem hmem).length_le
  omega

/-- **The source that always draws the same suffix**, unless its `temporaryName` is taken; then it
draws one that is longer than all names there are. -/
def NameSource.preferring (suffix : Text) : NameSource where
  draw taken :=
    if temporaryName suffix ∈ taken then
      List.replicate (taken.flatten.length + 1) '0'
    else suffix
  temporaryName_draw_notMem taken := by
    split
    · apply notMem_of_length_flatten_lt
      simp only [temporaryName, List.length_append, List.length_replicate]
      omega
    · assumption

/-! ## File systems and their operations -/

/-- **A tree of files, as a program sees it.** -/
structure FileSystem where
  /-- The files and directories. -/
  tree : Tree
  /-- The directory from which paths without a leading slash are followed. -/
  workingDirectory : Location
  /-- The path of that directory, as messages show it. -/
  shownDirectory : Text
  /-- Where new names come from. -/
  nameSource : NameSource

namespace FileSystem

/-- **A file that was made for a while**, under a `temporaryName`. -/
structure Temporary where
  /-- Where it is. -/
  location : Location
  /-- Its path, as messages show it. -/
  path : Text
  deriving DecidableEq, Repr

/-- `files.start path`: the location from which a path is followed, the root or
`files.workingDirectory`. -/
def start (files : FileSystem) (path : Text) : Location :=
  if Path.isAbsolute path then [] else files.workingDirectory

/-- **The path from the root, as messages show it**, of a name in a directory; it goes through
`files.shownDirectory`, the path of the working directory. -/
def shownPath (files : FileSystem) (directory name : Text) : Text :=
  Path.join (Path.join files.shownDirectory directory) name

/-- The directory to which a path leads, where an entry with the path `shown` is to be made. -/
def directoryFor (files : FileSystem) (directory shown : Text) : Except Refusal Location :=
  if '\x00' ∈ directory then .error .nulByte
  else if Path.maxPathLength < Path.byteLength shown then .error .nameTooLong
  else files.tree.directoryAt (files.start directory) (Path.names directory)

/-- `files.createTemporary directory`: makes an empty file with a new name in a directory. -/
def createTemporary (files : FileSystem) (directory : Text) :
    Except NotCreated Temporary × FileSystem :=
  let shown taken := files.shownPath directory (temporaryName (files.nameSource.draw taken))
  match files.directoryFor directory (shown []) with
  | .error refusal => (.error ⟨shown [], refusal⟩, files)
  | .ok location =>
    let taken := files.tree.namesIn location
    let temporary := ⟨temporaryName (files.nameSource.draw taken) :: location, shown taken⟩
    (.ok temporary, { files with tree := files.tree.insert temporary.location (.file []) })

/-- `files.fill temporary content`: puts the content into a temporary file. -/
def fill (files : FileSystem) (temporary : Temporary) (content : Bytes) : FileSystem :=
  { files with tree := files.tree.insert temporary.location (.file content) }

/-- `files.discard temporary`: removes a temporary file. -/
def discard (files : FileSystem) (temporary : Temporary) : FileSystem :=
  { files with tree := files.tree.erase temporary.location }

/-- `files.target path`: the location of the entry that a path is to name. -/
def target (files : FileSystem) (path : Text) : Except Refusal Location :=
  if '\x00' ∈ path then .error .invalidArgument
  else if path = [] then .error .notFound
  else if Path.maxPathLength < Path.byteLength path then .error .nameTooLong
  else files.tree.targetAt (files.start path) (Path.names path) (Path.endsInSlash path)

/-- `files.rename temporary path`: gives a temporary file the location that a path names. -/
def rename (files : FileSystem) (temporary : Temporary) (path : Text) :
    Except Refusal Unit × FileSystem :=
  match files.target path, files.tree.find? temporary.location with
  | .error refusal, _ => (.error refusal, files)
  | .ok _, none => (.error .notFound, files)
  | .ok location, some entry =>
    (.ok (), { files with tree := (files.tree.erase temporary.location).insert location entry })

/-- `files.read path`: the content of the file to which a path leads. -/
def read (files : FileSystem) (path : Text) : Except Refusal Bytes :=
  if '\x00' ∈ path then .error .nulByte
  else if path = [] then .error .notFound
  else if Path.maxPathLength < Path.byteLength path then .error .nameTooLong
  else do
    let location ← files.tree.walk (files.start path) (Path.names path)
    match files.tree.find? location with
    | some (.file content) =>
      if Path.endsInSlash path then .error .notDirectory else return content
    | some .directory => .error .isDirectory
    | none => .error .notFound

instance : FileAccess (StateM FileSystem) where
  Temporary := Temporary
  path temporary := temporary.path
  createTemporary directory files := files.createTemporary directory
  fill temporary content files := (.ok (), files.fill temporary content)
  rename temporary path files := files.rename temporary path
  discard temporary files := ((), files.discard temporary)
  read path files := (files.read path, files)

/-! ## Changes by others -/

/-- `files.write path content`: the file system with a file at a path, where a file can be. -/
def write (files : FileSystem) (path : Text) (content : Bytes) : FileSystem :=
  match files.target path with
  | .ok location => { files with tree := files.tree.insert location (.file content) }
  | .error _ => files

/-- `files.makeDirectory path`: the file system with a directory at a path, and with those on the
way to it. -/
def makeDirectory (files : FileSystem) (path : Text) : FileSystem :=
  { files with tree := files.tree.makeDirectories (files.start path) (Path.names path) }

/-- `files.remove path`: the file system without what a path leads to, and without all that lies
below it. -/
def remove (files : FileSystem) (path : Text) : FileSystem :=
  match files.tree.walk (files.start path) (Path.names path) with
  | .ok location => { files with tree := files.tree.prune location }
  | .error _ => files

end FileSystem

end RomCompiler
