import RomCompiler.FileSystem
import RomCompiler.Proofs.FileSystem.Tree

/-! # File systems with the same directories

Whether a file can be made, and where, depends on directories only. File systems that have the same
ones therefore make the same entries for all paths, whatever their files are.
* **`FileSystem.target_eq_ok_iff`**, **`FileSystem.directoryFor_eq_ok_iff`** — when a path has a
  place for an entry, and when there is a directory for one.
* **`FileSystem.SameDirectories`** — two file systems may differ in their files;
  **`FileSystem.sameDirectories_insert_file`** — they do if one has one more.
* **`FileSystem.SameDirectories.target_iff`**, **`FileSystem.SameDirectories.directoryFor_iff`** —
  such file systems have the same places. -/

namespace RomCompiler.FileSystem

variable {files other : FileSystem} {path directory shown : Text} {location target : Location}

/-! ## When a path has a place -/

/-- **A path names the place of an entry if it has the form of a path and its names do.** -/
theorem target_eq_ok_iff :
    files.target path = .ok target ↔
      '\x00' ∉ path ∧ path ≠ [] ∧ Path.byteLength path ≤ Path.maxPathLength ∧
        files.tree.targetAt (files.start path) (Path.names path) (Path.endsInSlash path) =
          .ok target := by
  unfold FileSystem.target
  split
  · next hnul => simp [hnul]
  · next hnul =>
    split
    · next hempty => simp [hempty]
    · next hempty =>
      split
      · next hlong =>
        constructor
        · intro h
          exact absurd h (by simp)
        · rintro ⟨-, -, hle, -⟩
          omega
      · next hlong =>
        exact ⟨fun h => ⟨hnul, hempty, Nat.le_of_not_lt hlong, h⟩, fun h => h.2.2.2⟩

/-- `files.tree.isDirectory target = false`: an image does not take the place of a directory. -/
theorem isDirectory_of_target_eq_ok (h : files.target path = .ok target) :
    files.tree.isDirectory target = false :=
  (Tree.targetAt_eq_ok_iff.mp (target_eq_ok_iff.mp h).2.2.2).2.1

/-- **There is a directory for an entry if the path of the directory leads to one, and the path of
the entry is not too long.** -/
theorem directoryFor_eq_ok_iff :
    files.directoryFor directory shown = .ok location ↔
      '\x00' ∉ directory ∧ Path.byteLength shown ≤ Path.maxPathLength ∧
        files.tree.directoryAt (files.start directory) (Path.names directory) = .ok location := by
  unfold directoryFor
  split
  · next hnul => simp [hnul]
  · next hnul =>
    split
    · next hlong =>
      constructor
      · intro h
        exact absurd h (by simp)
      · rintro ⟨-, hle, -⟩
        omega
    · next hlong =>
      exact ⟨fun h => ⟨hnul, Nat.le_of_not_lt hlong, h⟩, fun h => h.2.2⟩

/-! ## The same directories -/

/-- **Two file systems differ in their files at most**: with `SameDirectories files other` they have
the same directories, and show paths and draw names in the same way. -/
structure SameDirectories (files other : FileSystem) : Prop where
  /-- The directories are at the same locations. -/
  isDirectory_eq : ∀ location, files.tree.isDirectory location = other.tree.isDirectory location
  /-- Paths are followed from the same directory. -/
  workingDirectory_eq : files.workingDirectory = other.workingDirectory
  /-- That directory is shown with the same path. -/
  shownDirectory_eq : files.shownDirectory = other.shownDirectory
  /-- New names come from the same source. -/
  nameSource_eq : files.nameSource = other.nameSource

/-- `SameDirectories files files`: a file system has its own directories. -/
theorem SameDirectories.refl (files : FileSystem) : SameDirectories files files :=
  ⟨fun _ => rfl, rfl, rfl, rfl⟩

/-- `SameDirectories files other`: having the same directories is passed on. -/
theorem SameDirectories.trans {middle : FileSystem} (h : SameDirectories files middle)
    (hother : SameDirectories middle other) : SameDirectories files other where
  isDirectory_eq location := (h.isDirectory_eq location).trans (hother.isDirectory_eq location)
  workingDirectory_eq := h.workingDirectory_eq.trans hother.workingDirectory_eq
  shownDirectory_eq := h.shownDirectory_eq.trans hother.shownDirectory_eq
  nameSource_eq := h.nameSource_eq.trans hother.nameSource_eq

/-- **A file where no directory was changes no directory.** -/
theorem sameDirectories_insert_file (hnot : files.tree.isDirectory location = false)
    (content : Bytes) :
    SameDirectories files { files with tree := files.tree.insert location (.file content) } :=
  ⟨fun place => (Tree.isDirectory_insert_file hnot content place).symm, rfl, rfl, rfl⟩

namespace SameDirectories

variable (h : SameDirectories files other)

include h

/-- Nothing but the tree is different. -/
theorem eq_with_tree : other = { files with tree := other.tree } := by
  obtain ⟨-, hworking, hshown, hsource⟩ := h
  rw [hworking, hshown, hsource]

/-- `files.start path = other.start path`: paths are followed from the same location. -/
theorem start_eq (path : Text) : files.start path = other.start path := by
  rw [start, start, h.workingDirectory_eq]

/-- **A path leads to the same place for an entry.** -/
theorem target_iff : files.target path = .ok target ↔ other.target path = .ok target := by
  rw [target_eq_ok_iff, target_eq_ok_iff, h.start_eq,
    Tree.targetAt_iff_of_isDirectory_eq h.isDirectory_eq]

/-- **A path leads to the same directory for an entry.** -/
theorem directoryFor_iff :
    files.directoryFor directory shown = .ok location ↔
      other.directoryFor directory shown = .ok location := by
  rw [directoryFor_eq_ok_iff, directoryFor_eq_ok_iff, h.start_eq,
    Tree.directoryAt_iff_of_isDirectory_eq h.isDirectory_eq]

end SameDirectories

-- the reason for which there is none may be another one if there is a file
example :
    let files : FileSystem := ⟨.empty, [], ['/'], .preferring []⟩
    let other := { files with tree := files.tree.insert [['a']] (.file []) }
    files.directoryFor ['a'] ['a', '/', 'b'] = .error .notFound ∧
      other.directoryFor ['a'] ['a', '/', 'b'] = .error .notDirectory := by
  exact ⟨rfl, rfl⟩

end RomCompiler.FileSystem
