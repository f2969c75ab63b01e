import RomCompiler.Bytes
import RomCompiler.FileSystem.Path
import RomCompiler.FileSystem.Refusal

/-! # Trees of files

A tree binds locations to files and directories.
- **`Location`** — a place in the tree: the names from it up to the root.
- **`Tree.find?`** — the entry at a location, which is the view of a tree: **`Tree.insert`** and
  **`Tree.erase`** are described through it.
- **`Tree.walk`** — the location to which names lead from another one. -/

namespace RomCompiler

/-- A place in a tree: the name of an entry, that of its directory, and so on up to the root, which
is the empty list. -/
abbrev Location := List Text

/-- What a tree has at a location. -/
inductive Entry where
  /-- A file with its content. -/
  | file (content : Bytes)
  /-- A directory. -/
  | directory
  deriving DecidableEq, Repr

/-- **A tree of files**: its entries and their locations. The first entry for a location counts, and
the root, `[]`, is a directory without being listed. -/
structure Tree where
  /-- The entries below the root. -/
  entries : List (Location × Entry)
  deriving DecidableEq, Repr

namespace Tree

/-- The tree that has nothing but its root. -/
def empty : Tree := ⟨[]⟩

/-- `tree.find? location`: the entry at a location. -/
def find? (tree : Tree) (location : Location) : Option Entry :=
  if location = [] then some .directory else tree.entries.lookup location

/-- `tree.isDirectory location`: whether there is a directory at a location. -/
def isDirectory (tree : Tree) (location : Location) : Bool :=
  tree.find? location == some .directory

/-- `tree.erase location`: the tree without the entry at a location. -/
def erase (tree : Tree) (location : Location) : Tree :=
  ⟨tree.entries.filter (·.1 != location)⟩

/-- `tree.insert location entry`: the tree with an entry at a location, in place of any that is
there. -/
def insert (tree : Tree) (location : Location) (entry : Entry) : Tree :=
  ⟨(location, entry) :: (tree.erase location).entries⟩

/-- `tree.prune location`: the tree without the entry at a location and without all that lies below
it. -/
def prune (tree : Tree) (location : Location) : Tree :=
  ⟨tree.entries.filter fun entry => !location.isSuffixOf entry.1⟩

/-- `tree.namesIn directory`: the names of the entries in a directory. -/
def namesIn (tree : Tree) (directory : Location) : List Text :=
  tree.entries.filterMap fun entry =>
    match entry.1 with
    | [] => none
    | name :: above => if above = directory then some name else none

/-! ## Following names -/

/-- **One step on the way**: the location to which one name leads from `location`, which must be a
directory. `Path.self` stays there, and `Path.up` goes one up, which at the root is the root. -/
def enter (tree : Tree) (location : Location) (name : Text) : Except Refusal Location :=
  if !tree.isDirectory location then .error .notDirectory
  else if name = Path.self then .ok location
  else if name = Path.up then .ok location.tail
  else if Path.maxNameLength < Path.byteLength name then .error .nameTooLong
  else if (tree.find? (name :: location)).isNone then .error .notFound
  else .ok (name :: location)

/-- `tree.walk start`: the location to which some names lead, one after the other. -/
def walk (tree : Tree) (start : Location) : List Text → Except Refusal Location
  | [] => .ok start
  | name :: rest => do tree.walk (← tree.enter start name) rest

/-- `tree.directoryAt start names`: the directory to which some names lead. A `walk` that ends at a
file leads to none. -/
def directoryAt (tree : Tree) (start : Location) (names : List Text) :
    Except Refusal Location := do
  let location ← tree.walk start names
  if tree.isDirectory location then return location else .error .notDirectory

/-- **The location of the entry that some names are to have**, whether it is there or not. Only an
ordinary name can be given to an entry, and a directory is not replaced; `mustBeDirectory` says that
the names were given as those of a directory, which a file does not become. -/
def targetAt (tree : Tree) (start : Location) (names : List Text) (mustBeDirectory : Bool) :
    Except Refusal Location := do
  let directory ← tree.directoryAt start names.dropLast
  match names.getLast? with
  | none => .error .busy
  | some name =>
    if name = Path.self ∨ name = Path.up then .error .busy
    else if Path.maxNameLength < Path.byteLength name then .error .nameTooLong
    else if mustBeDirectory then .error .notDirectory
    else if tree.isDirectory (name :: directory) then .error .isDirectory
    else return name :: directory

/-- `tree.makeDirectories start names`: the tree with directories made for those of the names that
are not there yet. -/
def makeDirectories (tree : Tree) (start : Location) : List Text → Tree
  | [] => tree
  | name :: rest =>
    match tree.enter start name with
    | .ok location => tree.makeDirectories location rest
    | .error .notFound =>
      (tree.insert (name :: start) .directory).makeDirectories (name :: start) rest
    | .error _ => tree

/-! ## What the operations do to the view -/

/-- `tree.find? [] = some .directory`: the root is a directory. -/
@[simp] theorem find?_root (tree : Tree) : tree.find? [] = some .directory := rfl

/-- Of the entries without those for one location, the first one for another location is the same as
before. -/
theorem lookup_filter_ne (entries : List (Location × Entry)) (location other : Location) :
    (entries.filter (·.1 != location)).lookup other =
      if other = location then none else entries.lookup other := by
  induction entries with
  | nil => simp
  | cons entry rest ih =>
    rcases entry with ⟨place, content⟩
    by_cases hplace : place = location
    · by_cases hother : other = location
      · rw [if_pos hother] at ih ⊢
        simpa [hplace] using ih
      · have hne : (other == location) = false := by simpa using hother
        simp [hplace, ih, List.lookup_cons, hother, hne]
    · by_cases hother : other = place
      · simp [hplace, hother]
      · have hne : (other == place) = false := by simpa using hother
        simp [hplace, ih, List.lookup_cons, hne]

/-- An erased entry is gone, and every other one is still there. -/
theorem find?_erase (tree : Tree) {location other : Location} (h : other ≠ []) :
    (tree.erase location).find? other = if other = location then none else tree.find? other := by
  simp only [find?, erase, h, if_false, lookup_filter_ne]

/-- An inserted entry is found, and every other one is still there. -/
theorem find?_insert (tree : Tree) {location other : Location} (entry : Entry) (h : other ≠ []) :
    (tree.insert location entry).find? other =
      if other = location then some entry else tree.find? other := by
  by_cases hother : other = location
  · simp only [find?, insert, List.lookup_cons, hother, beq_self_eq_true, if_true]
    rw [if_neg (hother ▸ h)]
  · have hne : (other == location) = false := by simpa using hother
    -- the new entry is passed over, and what comes after it is the tree without the old one
    have hrest : (tree.insert location entry).find? other = (tree.erase location).find? other := by
      simp only [find?, insert, h, if_false, List.lookup_cons, hne]
    rw [hrest, find?_erase tree h, if_neg hother, if_neg hother]

end Tree

end RomCompiler
