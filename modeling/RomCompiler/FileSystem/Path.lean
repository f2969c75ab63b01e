import RomCompiler.Text.Blank

/-! # Paths

A path is the text that a user gives for a file. It is followed from the root, if it opens with a
slash, or else from the working directory, name by name.
- **`Path.names`** — the names to follow; slashes that stand together count as one.
- **`Path.parent?`** — the path of what lies above, read off the text alone: a last name goes away
  together with the slashes and single dots around it.
- **`Path.directory`** — where a file beside the path is to be made. -/

namespace RomCompiler.Path

/-- The name that stands for the directory itself: `.`. -/
def self : Text := ['.']

/-- The name that stands for the directory above: `..`. -/
def up : Text := ['.', '.']

/-- Whether a path is followed from the root, that is whether it begins with a slash. -/
def isAbsolute (path : Text) : Bool := path.head? == some '/'

/-- Whether a path ends in a slash, by which it says that it leads to a directory. -/
def endsInSlash (path : Text) : Bool := path.getLast? == some '/'

/-- **The segments of a path**: the texts between its slashes, of which some may be empty. -/
def segments (path : Text) : List Text := path.splitOn '/'

/-- `names path`: the names in a path, in the order in which they are followed. -/
def names (path : Text) : List Text := (segments path).filter (!·.isEmpty)

/-- Whether a segment leads nowhere else: it is empty, or it is `self`. -/
def isVoid (segment : Text) : Bool := segment.isEmpty || segment == self

/-- **The path with the given segments.** A single empty one, `[[]]`, is what is left of the root.
-/
def ofSegments : List Text → Text
  | [[]] => ['/']
  | segments => ['/'].intercalate segments

/-- **The path of the directory above, as far as the text shows it; the empty text if there is just
one name.** Neither the root nor the empty path has one. Segments that lead nowhere else are passed
over, but the first one counts: there it is the root or the directory itself. -/
def parent? (path : Text) : Option Text :=
  match segments path with
  | [] => none
  | first :: rest =>
    match dropEndWhile isVoid rest with
    | [] => if first.isEmpty then none else some []
    | inner => some (ofSegments (first :: dropEndWhile isVoid inner.dropLast))

/-- **The path of the directory that has the entry a path leads to**: `parent? path`, or `self` if
the path is nothing but a name. -/
def directory (path : Text) : Text :=
  match parent? path with
  | none => self
  | some [] => self
  | some above => above

/-- `join directory path`: a path followed from a directory. An absolute one stays as it is. -/
def join (directory path : Text) : Text :=
  if isAbsolute path then path
  else if endsInSlash directory then directory ++ path
  else directory ++ '/' :: path

/-- `byteLength text`: the number of bytes that a text takes in UTF-8. -/
def byteLength (text : Text) : Nat := (String.ofList text).utf8ByteSize

/-- The largest number of bytes in a name. -/
def maxNameLength : Nat := 255

/-- The largest number of bytes in a path. -/
def maxPathLength : Nat := 4095

end RomCompiler.Path
