import RomCompiler.Proofs.FileSystem.Directories
import RomCompiler.Save

/-! # Saving in a file system

A save makes a temporary file beside its path, fills it and renames it. The temporary file has a
location of its own, so it does not matter to where the path leads, and it is gone in the end.
* **`FileSystem.shownTemporary`**, **`FileSystem.drawn`** — the temporary file that is made in a
  directory.
* **`FileSystem.rename_drawn_of_ok`**, **`FileSystem.rename_drawn_of_error`** — what renaming the
  filled temporary file does to the tree from before it was made.
* **`FileSystem.SavedAt`** — two file systems that differ in the entry of an image, which
  **`FileSystem.SavedAt.read_eq`** reads back.
* **`run_save_of_ok`**, **`run_save_of_directory_error`**, **`run_save_of_rename_error`** — the
  three ends of a save, told from the file system before it; **`outcome_save_eq_ok_iff`** and
  **`run_save_cases`** put them together. -/

namespace RomCompiler

namespace FileSystem

variable {files : FileSystem} {path : Text} {location : Location}

/-! ## The temporary file -/

/-- `files.shownTemporary directory taken`: the path that messages show for the temporary file in a
directory with the given names. -/
def shownTemporary (files : FileSystem) (directory : Text) (taken : List Text) : Text :=
  files.shownPath directory (temporaryName (files.nameSource.draw taken))

/-- `files.drawn directory location`: the temporary file that is made in a directory. -/
def drawn (files : FileSystem) (directory : Text) (location : Location) : Temporary :=
  ⟨temporaryName (files.nameSource.draw (files.tree.namesIn location)) :: location,
    files.shownTemporary directory (files.tree.namesIn location)⟩

/-- `files.tree.Unused (files.drawn directory location).location`: the location of the temporary
file is new. -/
theorem unused_drawn (files : FileSystem) (directory : Text) (location : Location) :
    files.tree.Unused (files.drawn directory location).location :=
  Tree.unused_of_notMem_namesIn (files.nameSource.temporaryName_draw_notMem _)

/-- There is no directory at the location of the temporary file. -/
theorem isDirectory_drawn (files : FileSystem) (directory : Text) (location : Location) :
    files.tree.isDirectory (files.drawn directory location).location = false :=
  (files.unused_drawn directory location).isDirectory_eq_false (List.cons_ne_nil _ _)

/-- The temporary file is made where its directory is. -/
theorem createTemporary_of_ok {directory : Text}
    (h : files.directoryFor directory (files.shownTemporary directory []) = .ok location) :
    files.createTemporary directory =
      (.ok (files.drawn directory location), files.fill (files.drawn directory location) []) := by
  rw [shownTemporary] at h
  rw [createTemporary, h]
  rfl

/-- There is no temporary file without a directory for it. -/
theorem createTemporary_of_error {directory : Text} {refusal : Refusal}
    (h : files.directoryFor directory (files.shownTemporary directory []) = .error refusal) :
    files.createTemporary directory =
      (.error ⟨files.shownTemporary directory [], refusal⟩, files) := by
  rw [shownTemporary] at h
  rw [createTemporary, h]
  rfl

/-- The last content of a temporary file counts. -/
theorem fill_fill (temporary : Temporary) (first second : Bytes) :
    (files.fill temporary first).fill temporary second = files.fill temporary second := by
  rw [fill, fill, fill, Tree.insert_insert]

/-- Without the temporary file everything is as it was before. -/
theorem discard_fill_drawn (directory : Text) (location : Location) (content : Bytes) :
    (files.fill (files.drawn directory location) content).discard (files.drawn directory location) =
      files := by
  rw [discard, fill, (files.unused_drawn directory location).erase_insert_eq]

/-! ## The path of an image -/

/-- A path leads to the same new entry with the temporary file and without it. -/
theorem target_fill_drawn_iff (directory : Text) (content : Bytes) {target : Location} :
    (files.fill (files.drawn directory location) content).target path = .ok target ↔
      files.target path = .ok target :=
  (sameDirectories_insert_file (files.isDirectory_drawn directory location) content).target_iff.symm

/-- **The temporary file with its content takes the place that the path names, and leaves its own.**
-/
theorem rename_drawn_of_ok {target : Location} (h : files.target path = .ok target)
    (directory : Text) (location : Location) (content : Bytes) :
    (files.fill (files.drawn directory location) content).rename (files.drawn directory location)
      path = (.ok (), { files with tree := files.tree.insert target (.file content) }) := by
  have htarget : (files.fill (files.drawn directory location) content).target path = .ok target :=
    (target_fill_drawn_iff directory content).mpr h
  have hfind : (files.fill (files.drawn directory location) content).tree.find?
      (files.drawn directory location).location = some (.file content) :=
    Tree.find?_insert_self _ _ (List.cons_ne_nil _ _)
  -- the temporary file is all that is erased, so the image is put into the tree from before it
  rw [rename, htarget, hfind, fill, (files.unused_drawn directory location).erase_insert_eq]

/-- **Where the path names no place, the temporary file stays.** -/
theorem rename_drawn_of_error (h : ∀ target, files.target path ≠ .ok target) (directory : Text)
    (location : Location) (content : Bytes) :
    ∃ refusal, (files.fill (files.drawn directory location) content).rename
      (files.drawn directory location) path =
        (.error refusal, files.fill (files.drawn directory location) content) := by
  rcases htarget : (files.fill (files.drawn directory location) content).target path with
    refusal | target
  · refine ⟨refusal, ?_⟩
    rw [rename, htarget]
  · -- the temporary file has not made a place for the path either
    exact absurd ((target_fill_drawn_iff directory content).mp htarget) (h target)

/-! ## The entry of an image -/

/-- **A file system differs from an earlier one in one entry**: with
`SavedAt before after path location content` this is a file with `content`, at the location to which
the path leads. -/
structure SavedAt (before after : FileSystem) (path : Text) (location : Location)
    (content : Bytes) : Prop where
  /-- The path leads to the location. -/
  target_eq : before.target path = .ok location
  /-- The location was free or had a file. -/
  isDirectory_eq : before.tree.isDirectory location = false
  /-- Nothing but the entry at the location has changed. -/
  after_eq : after = { before with tree := before.tree.insert location (.file content) }
  /-- The content is at the location. -/
  find?_eq : after.tree.find? location = some (.file content)
  /-- Every other entry is as it was. -/
  find?_of_ne : ∀ other, other ≠ location → after.tree.find? other = before.tree.find? other

/-- An entry is saved by making it. -/
theorem savedAt_insert {target : Location} (h : files.target path = .ok target) (content : Bytes) :
    SavedAt files { files with tree := files.tree.insert target (.file content) } path target
      content := by
  have hnot := isDirectory_of_target_eq_ok h
  -- the root is a directory
  have hne : target ≠ [] := by
    rintro rfl
    exact absurd hnot (by simp [Tree.isDirectory])
  exact ⟨h, hnot, rfl, Tree.find?_insert_self _ _ hne,
    fun _ hother => Tree.find?_insert_of_ne _ _ hother⟩

/-- `SameDirectories before after`: an entry is saved without a change of directories. -/
theorem SavedAt.sameDirectories {before after : FileSystem} {content : Bytes}
    (h : SavedAt before after path location content) : SameDirectories before after := by
  rw [h.after_eq]
  exact sameDirectories_insert_file h.isDirectory_eq content

/-- **What is saved under a path is read back from it**: `after.read path = .ok content`. -/
theorem SavedAt.read_eq {before after : FileSystem} {content : Bytes}
    (h : SavedAt before after path location content) : after.read path = .ok content := by
  obtain ⟨hnul, hne, hlong, htarget⟩ := target_eq_ok_iff.mp h.target_eq
  obtain ⟨hslash, -, name, directory, hname, rfl, hdirectory, hself, hup, hname_le⟩ :=
    Tree.targetAt_eq_ok_iff.mp htarget
  obtain ⟨hwalk, hisDirectory⟩ := Tree.directoryAt_eq_ok_iff.mp hdirectory
  have hsame := h.sameDirectories
  -- the directory is found as before, and the last name leads from it to the new entry
  have hfront : after.tree.walk (after.start path) (Path.names path).dropLast = .ok directory := by
    rw [← hsame.start_eq]
    exact Tree.walk_of_isDirectory_eq hsame.isDirectory_eq hisDirectory hwalk
  have hlast : after.tree.enter directory name = .ok (name :: directory) := by
    rw [Tree.enter_eq_ok_iff, ← hsame.isDirectory_eq]
    refine ⟨hisDirectory, Or.inr (Or.inr ⟨hself, hup, hname_le, ?_, rfl⟩)⟩
    rw [h.find?_eq]
    rfl
  have hnames : Path.names path = (Path.names path).dropLast ++ [name] := by
    obtain ⟨front, hfront⟩ := List.getLast?_eq_some_iff.mp hname
    rw [hfront, List.dropLast_concat]
  have hwhole : after.tree.walk (after.start path) (Path.names path) = .ok (name :: directory) := by
    rw [hnames, Tree.walk_append_of_ok hfront, Tree.walk, hlast]
    rfl
  rw [read, if_neg hnul, if_neg hne, if_neg (Nat.not_lt.mpr hlong), hwhole]
  simp [bind, Except.bind, pure, Except.pure, h.find?_eq, hslash]

end FileSystem

/-! ## The ends of a save -/

/-- `(first >>= next).run before = (next value).run after`: after a first action with a known
result, the next one goes on with it. -/
theorem run_bind_of_run {σ α β : Type} {first : StateM σ α} {next : α → StateM σ β}
    {before after : σ} {value : α} (h : first.run before = (value, after)) :
    (first >>= next).run before = (next value).run after := by
  rw [StateT.run_bind, h]
  rfl

variable {files after : FileSystem} {image : Image} {path : Text} {content : Bytes}
  {temporary : FileSystem.Temporary} {directory target : Location} {refusal : Refusal}

/-- A temporary file is filled and then renamed. -/
theorem run_persist_of_ok
    (h : (files.fill temporary content).rename temporary path = (.ok (), after)) :
    (Save.persist (m := StateM FileSystem) temporary content path).run files = (.ok (), after) := by
  have hfill : (FileAccess.fill temporary content : StateM FileSystem _).run files =
      (.ok (), files.fill temporary content) := rfl
  have hrename : (FileAccess.rename temporary path : StateM FileSystem _).run
      (files.fill temporary content) = (.ok (), after) := h
  rw [Save.persist, run_bind_of_run hfill]
  exact run_bind_of_run hrename

/-- A temporary file that can't be renamed is removed. -/
theorem run_persist_of_error
    (h : (files.fill temporary content).rename temporary path = (.error refusal, after)) :
    (Save.persist (m := StateM FileSystem) temporary content path).run files =
      (.error refusal, after.discard temporary) := by
  have hfill : (FileAccess.fill temporary content : StateM FileSystem _).run files =
      (.ok (), files.fill temporary content) := rfl
  have hrename : (FileAccess.rename temporary path : StateM FileSystem _).run
      (files.fill temporary content) = (.error refusal, after) := h
  rw [Save.persist, run_bind_of_run hfill]
  exact run_bind_of_run hrename

/-- Where there is a directory for the temporary file, a save ends as the steps after it is made
do. -/
theorem run_save_of_persist {placed : Except Refusal Unit}
    (hdirectory : files.directoryFor (Path.directory path)
      (files.shownTemporary (Path.directory path) []) = .ok directory)
    (hpersist : (Save.persist (m := StateM FileSystem)
      (files.drawn (Path.directory path) directory) image.bytes path).run
        (files.fill (files.drawn (Path.directory path) directory) []) = (placed, after)) :
    (save image path : StateM FileSystem _).run files =
      (⟨[.saving path, .writing image.size (files.drawn (Path.directory path) directory).path],
        placed.mapError fun refusal => ⟨path, .final refusal⟩⟩, after) := by
  have hcreate :
      (FileAccess.createTemporary (Path.directory path) : StateM FileSystem _).run files =
      (.ok (files.drawn (Path.directory path) directory),
        files.fill (files.drawn (Path.directory path) directory) []) :=
    FileSystem.createTemporary_of_ok hdirectory
  rw [save, run_bind_of_run hcreate]
  exact run_bind_of_run hpersist

/-- **Where there is a directory for the temporary file and a place for the image, the image is
saved.** -/
theorem run_save_of_ok (hdirectory : files.directoryFor (Path.directory path)
      (files.shownTemporary (Path.directory path) []) = .ok directory)
    (htarget : files.target path = .ok target) :
    (save image path : StateM FileSystem _).run files =
      (⟨[.saving path,
          .writing image.size (files.drawn (Path.directory path) directory).path], .ok ()⟩,
        { files with tree := files.tree.insert target (.file image.bytes) }) := by
  have hrename :=
    FileSystem.rename_drawn_of_ok htarget (Path.directory path) directory image.bytes
  rw [← FileSystem.fill_fill _ []] at hrename
  exact run_save_of_persist hdirectory (run_persist_of_ok hrename)

/-- **Where the temporary file can't be renamed, nothing changes.** -/
theorem run_save_of_rename_error (hdirectory : files.directoryFor (Path.directory path)
      (files.shownTemporary (Path.directory path) []) = .ok directory)
    (hrename : (files.fill (files.drawn (Path.directory path) directory) image.bytes).rename
      (files.drawn (Path.directory path) directory) path =
        (.error refusal, files.fill (files.drawn (Path.directory path) directory) image.bytes)) :
    (save image path : StateM FileSystem _).run files =
      (⟨[.saving path, .writing image.size (files.drawn (Path.directory path) directory).path],
        .error ⟨path, .final refusal⟩⟩, files) := by
  rw [← FileSystem.fill_fill _ []] at hrename
  -- what is left after the temporary file is removed is the file system from before the save
  have hpersist := run_persist_of_error hrename
  rw [FileSystem.fill_fill, FileSystem.discard_fill_drawn] at hpersist
  exact run_save_of_persist hdirectory hpersist

/-- Where there is no place for the image, nothing changes. -/
theorem run_save_of_target_error (hdirectory : files.directoryFor (Path.directory path)
      (files.shownTemporary (Path.directory path) []) = .ok directory)
    (htarget : ∀ target, files.target path ≠ .ok target) :
    ∃ refusal, (save image path : StateM FileSystem _).run files =
      (⟨[.saving path, .writing image.size (files.drawn (Path.directory path) directory).path],
        .error ⟨path, .final refusal⟩⟩, files) := by
  obtain ⟨refusal, hrename⟩ :=
    FileSystem.rename_drawn_of_error htarget (Path.directory path) directory image.bytes
  exact ⟨refusal, run_save_of_rename_error hdirectory hrename⟩

/-- **Where there is no directory for the temporary file, nothing changes.** -/
theorem run_save_of_directory_error (hdirectory : files.directoryFor (Path.directory path)
      (files.shownTemporary (Path.directory path) []) = .error refusal) :
    (save image path : StateM FileSystem _).run files =
      (⟨[.saving path], .error ⟨path, .temporary
        ⟨files.shownTemporary (Path.directory path) [], refusal⟩⟩⟩, files) := by
  have hcreate :
      (FileAccess.createTemporary (Path.directory path) : StateM FileSystem _).run files =
      (.error ⟨files.shownTemporary (Path.directory path) [], refusal⟩, files) :=
    FileSystem.createTemporary_of_error hdirectory
  rw [save, run_bind_of_run hcreate]
  rfl

/-- **Whether an image is saved depends on the directory and the place that its path has.** -/
theorem outcome_save_eq_ok_iff (image : Image) (path : Text) (files : FileSystem) :
    ((save image path : StateM FileSystem _).run files).1.outcome = .ok () ↔
      (∃ directory, files.directoryFor (Path.directory path)
        (files.shownTemporary (Path.directory path) []) = .ok directory) ∧
      ∃ target, files.target path = .ok target := by
  rcases hdirectory : files.directoryFor (Path.directory path)
      (files.shownTemporary (Path.directory path) []) with refusal | directory
  · rw [run_save_of_directory_error hdirectory]
    simp
  · rcases htarget : files.target path with refusal | target
    · have hnone : ∀ target, files.target path ≠ .ok target := by
        simp [htarget]
      obtain ⟨refusal, hrun⟩ := run_save_of_target_error hdirectory hnone
      rw [hrun]
      simp
    · rw [run_save_of_ok hdirectory htarget]
      simp

/-- **A save that fails changes nothing, and one that succeeds puts the image where its path
leads.** -/
theorem run_save_cases (image : Image) (path : Text) (files : FileSystem) :
    (∃ log fault, (save image path : StateM FileSystem _).run files =
      (⟨log, .error fault⟩, files)) ∨
    ∃ log target, files.target path = .ok target ∧
      (save image path : StateM FileSystem _).run files = (⟨log, .ok ()⟩,
        { files with tree := files.tree.insert target (.file image.bytes) }) := by
  rcases hdirectory : files.directoryFor (Path.directory path)
      (files.shownTemporary (Path.directory path) []) with refusal | directory
  · exact Or.inl ⟨_, _, run_save_of_directory_error hdirectory⟩
  · rcases htarget : files.target path with refusal | target
    · have hnone : ∀ target, files.target path ≠ .ok target := by
        simp [htarget]
      obtain ⟨refusal, hrun⟩ := run_save_of_target_error hdirectory hnone
      exact Or.inl ⟨_, _, hrun⟩
    · exact Or.inr ⟨_, target, rfl, run_save_of_ok hdirectory htarget⟩

end RomCompiler
