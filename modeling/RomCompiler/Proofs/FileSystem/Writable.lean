import RomCompiler.Proofs.FileSystem.Path
import RomCompiler.Proofs.FileSystem.Save

/-! # Where an image can be saved

A path within the limits of the system has an image saved under it, unless its directory is missing
or it can't be the path of a file; the reason for a failure tells which of the two it is.
* **`Refusal.OfTree`** — what the system says of the tree; no such refusal names a temporary file.
* **`Path.WithinLimits`** — the system takes the path for what it is.
* **`FileSystem.ResolvesTo`**, **`FileSystem.NotForFile`** — the path of a directory that is there,
  and a path that no file has.
* **`FileSystem.target_eq_of_resolvesTo`** — a path that a file can have is that of an entry in its
  directory.
* **`run_save_of_withinLimits`** — the ends of a save, told from the path and the tree. -/

namespace RomCompiler

/-! ## What the system says of the tree -/

/-- **A refusal for what is in the tree where a path leads.** -/
inductive Refusal.OfTree : Refusal → Prop where
  /-- A name is not there. -/
  | notFound : OfTree .notFound
  /-- A file is on the way, or the path can only be that of a directory. -/
  | notDirectory : OfTree .notDirectory
  /-- A directory is there. -/
  | isDirectory : OfTree .isDirectory
  /-- The path leads to a directory by another name than its own. -/
  | busy : OfTree .busy

/-- `¬temporaryName suffix <:+: refusal.description.toList`: no refusal for what is in the tree
names a temporary file. -/
theorem Refusal.OfTree.temporaryName_not_isInfix {refusal : Refusal} (h : refusal.OfTree)
    (suffix : Text) : ¬temporaryName suffix <:+: refusal.description.toList := by
  intro hinfix
  have hdot : '.' ∈ refusal.description.toList :=
    hinfix.subset (List.mem_append_left suffix (by decide))
  cases h <;> exact absurd hdot (by decide)

/-- **The system takes a path for what it is**: there is no NUL in it, no name in it is longer than
`maxNameLength`, and the whole is not longer than `maxPathLength`. -/
structure Path.WithinLimits (path : Text) : Prop where
  /-- No character is a NUL. -/
  nul_notMem : '\x00' ∉ path
  /-- No name is too long. -/
  name_le : ∀ name ∈ Path.names path, Path.byteLength name ≤ Path.maxNameLength
  /-- The path is not too long. -/
  path_le : Path.byteLength path ≤ Path.maxPathLength

namespace Tree

variable {tree : Tree} {start : Location} {names : List Text} {refusal : Refusal}

/-- A name that is not too long is refused for what is in the tree. -/
theorem ofTree_of_enter_eq_error {name : Text} (hname : Path.byteLength name ≤ Path.maxNameLength)
    (h : tree.enter start name = .error refusal) : refusal.OfTree := by
  unfold enter at h
  split at h
  · rw [← Except.error.inj h]
    exact .notDirectory
  · split at h
    · exact absurd h (by simp)
    · split at h
      · exact absurd h (by simp)
      · rw [if_neg (Nat.not_lt.mpr hname)] at h
        split at h
        · rw [← Except.error.inj h]
          exact .notFound
        · exact absurd h (by simp)

/-- Names that are not too long are refused for what is in the tree. -/
theorem ofTree_of_walk_eq_error (hnames : ∀ name ∈ names, Path.byteLength name ≤ Path.maxNameLength)
    (h : tree.walk start names = .error refusal) : refusal.OfTree := by
  induction names generalizing start with
  | nil => exact absurd h (by simp [walk])
  | cons name rest ih =>
    rw [List.forall_mem_cons] at hnames
    rw [walk] at h
    rcases hnext : tree.enter start name with first | next
    · rw [hnext] at h
      rw [← Except.error.inj h]
      exact ofTree_of_enter_eq_error hnames.1 hnext
    · rw [hnext] at h
      exact ih hnames.2 h

/-- A directory with names that are not too long is refused for what is in the tree. -/
theorem ofTree_of_directoryAt_eq_error
    (hnames : ∀ name ∈ names, Path.byteLength name ≤ Path.maxNameLength)
    (h : tree.directoryAt start names = .error refusal) : refusal.OfTree := by
  rw [directoryAt] at h
  rcases hwalk : tree.walk start names with first | last
  · rw [hwalk] at h
    rw [← Except.error.inj h]
    exact ofTree_of_walk_eq_error hnames hwalk
  · rw [hwalk] at h
    change (if tree.isDirectory last = true then _ else _) = _ at h
    split at h
    · exact absurd h (by simp [pure, Except.pure])
    · rw [← Except.error.inj h]
      exact .notDirectory

/-- An entry with names that are not too long is refused for what is in the tree. -/
theorem ofTree_of_targetAt_eq_error {mustBeDirectory : Bool}
    (hnames : ∀ name ∈ names, Path.byteLength name ≤ Path.maxNameLength)
    (h : tree.targetAt start names mustBeDirectory = .error refusal) : refusal.OfTree := by
  rw [targetAt] at h
  rcases hdirectory : tree.directoryAt start names.dropLast with first | directory
  · rw [hdirectory] at h
    rw [← Except.error.inj h]
    exact ofTree_of_directoryAt_eq_error
      (fun name hname => hnames name (List.dropLast_subset names hname)) hdirectory
  · rw [hdirectory] at h
    rcases hlast : names.getLast? with _ | name
    · rw [hlast] at h
      rw [← Except.error.inj h]
      exact .busy
    · have hlong := hnames name (List.mem_of_mem_getLast? hlast)
      rw [hlast] at h
      change (if name = Path.self ∨ name = Path.up then _ else _) = _ at h
      rw [if_neg (Nat.not_lt.mpr hlong)] at h
      split at h
      · rw [← Except.error.inj h]
        exact .busy
      · split at h
        · rw [← Except.error.inj h]
          exact .notDirectory
        · split at h
          · rw [← Except.error.inj h]
            exact .isDirectory
          · exact absurd h (by simp [pure, Except.pure])

end Tree

namespace FileSystem

variable {files : FileSystem} {path : Text} {directory : Location} {refusal : Refusal}

/-- A path within the limits is refused for what is in the tree. -/
theorem ofTree_of_target_eq_error (h : Path.WithinLimits path)
    (htarget : files.target path = .error refusal) : refusal.OfTree := by
  rw [target, if_neg h.nul_notMem] at htarget
  split at htarget
  · rw [← Except.error.inj htarget]
    exact .notFound
  · rw [if_neg (Nat.not_lt.mpr h.path_le)] at htarget
    exact Tree.ofTree_of_targetAt_eq_error h.name_le htarget

/-- Renaming to a path within the limits is refused for what is in the tree. -/
theorem ofTree_of_rename_eq_error (h : Path.WithinLimits path) {temporary : Temporary}
    (hrename : (files.rename temporary path).1 = .error refusal) : refusal.OfTree := by
  unfold rename at hrename
  split at hrename
  · next htarget =>
    rw [← Except.error.inj hrename]
    exact ofTree_of_target_eq_error h htarget
  · rw [← Except.error.inj hrename]
    exact .notFound
  · exact absurd hrename (by simp)

/-! ## Paths that a file can have -/

/-- **A path leads to a directory that is there.** The empty path leads nowhere. -/
def ResolvesTo (files : FileSystem) (path : Text) (directory : Location) : Prop :=
  path ≠ [] ∧ files.tree.directoryAt (files.start path) (Path.names path) = .ok directory

/-- **No file can have a path, whether its directory is there or not**: `files.NotForFile path`. -/
inductive NotForFile (files : FileSystem) (path : Text) : Prop where
  /-- The path is empty. -/
  | empty (h : path = [])
  /-- The path ends as that of a directory does. -/
  | slash (h : Path.endsInSlash path = true)
  /-- The path ends in the name for the directory itself. -/
  | self (h : Path.lastSegment path = Path.self)
  /-- The path ends in the name for the directory above. -/
  | up (h : Path.lastSegment path = Path.up)
  /-- The path leads to a directory. -/
  | directory (location : Location) (h : files.ResolvesTo path location)

/-- `files.target path ≠ .ok target`: a path that no file can have names no place for one. -/
theorem target_ne_ok_of_notForFile (h : files.NotForFile path) (target : Location) :
    files.target path ≠ .ok target := by
  intro htarget
  obtain ⟨-, hne, -, htargetAt⟩ := target_eq_ok_iff.mp htarget
  obtain ⟨hslash, hnot, name, above, hname, rfl, habove, hself, hup, hlong⟩ :=
    Tree.targetAt_eq_ok_iff.mp htargetAt
  have hends : ¬Path.endsInSlash path = true := by simp [hslash]
  have hnil : Path.lastSegment path ≠ [] :=
    fun hnil => (Path.lastSegment_eq_nil_iff.mp hnil).elim hne hends
  have hconcat := Path.names_eq_concat hnil
  obtain rfl : Path.lastSegment path = name := by
    rw [hconcat, List.getLast?_concat] at hname
    exact Option.some.inj hname
  cases h with
  | empty hempty => exact hne hempty
  | slash hslash => exact hends hslash
  | self hdot => exact hself hdot
  | up hdots => exact hup hdots
  | directory location hresolves =>
    have hdirectory := hresolves.2
    rw [hconcat, Tree.directoryAt_concat_iff habove hself hup hlong, hnot] at hdirectory
    exact Bool.noConfusion hdirectory.2

/-- **A path that a file can have, within the limits, is that of the entry in its directory with the
last name**: `files.target path = .ok (Path.lastSegment path :: directory)`. -/
theorem target_eq_of_resolvesTo (h : Path.WithinLimits path)
    (hdirectory : files.ResolvesTo (Path.directory path) directory)
    (hfile : ¬files.NotForFile path) :
    files.target path = .ok (Path.lastSegment path :: directory) := by
  have hne : path ≠ [] := fun hempty => hfile (.empty hempty)
  have hends : ¬Path.endsInSlash path = true := fun hslash => hfile (.slash hslash)
  have hnil : Path.lastSegment path ≠ [] :=
    fun hnil => (Path.lastSegment_eq_nil_iff.mp hnil).elim hne hends
  have hself : Path.lastSegment path ≠ Path.self := fun hdot => hfile (.self hdot)
  have hup : Path.lastSegment path ≠ Path.up := fun hdots => hfile (.up hdots)
  have hconcat := Path.names_eq_concat hnil
  have hlong : Path.byteLength (Path.lastSegment path) ≤ Path.maxNameLength := by
    apply h.name_le
    rw [hconcat]
    exact List.mem_append_right _ (List.mem_singleton_self _)
  have hfront : files.tree.directoryAt (files.start path) (Path.names path).dropLast =
      .ok directory := by
    rw [← directoryAt_directory (by simp [Path.isVoid, hnil, hself])]
    exact hdirectory.2
  -- a directory under the last name would be one to which the path leads
  have hnot : files.tree.isDirectory (Path.lastSegment path :: directory) = false := by
    rw [Bool.eq_false_iff]
    intro hthere
    refine hfile (.directory (Path.lastSegment path :: directory) ⟨hne, ?_⟩)
    rw [hconcat, Tree.directoryAt_concat_iff hfront hself hup hlong]
    exact ⟨rfl, hthere⟩
  have hlast : (Path.names path).getLast? = some (Path.lastSegment path) := by
    rw [hconcat, List.getLast?_concat]
  rw [target_eq_ok_iff, Tree.targetAt_eq_ok_iff]
  exact ⟨h.nul_notMem, hne, h.path_le, by simpa using hends, hnot, _, directory, hlast, rfl, hfront,
    hself, hup, hlong⟩

/-- The directory of a path within the limits can have a temporary file if it is there. -/
theorem directoryFor_directory_iff (h : Path.WithinLimits path) {shown : Text}
    (hshown : Path.byteLength shown ≤ Path.maxPathLength) :
    files.directoryFor (Path.directory path) shown = .ok directory ↔
      files.ResolvesTo (Path.directory path) directory := by
  have hnul : '\x00' ∉ Path.directory path := by
    rcases Path.directory_eq_self_or_isPrefix path with hself | hbegins
    · rw [hself]
      decide
    · exact fun hmem => h.nul_notMem (hbegins.mem hmem)
  rw [directoryFor_eq_ok_iff]
  exact ⟨fun hfor => ⟨Path.directory_ne_nil path, hfor.2.2⟩, fun hthere => ⟨hnul, hshown, hthere.2⟩⟩

end FileSystem

/-! ## The faults of a save -/

namespace Save.Fault

variable {fault : Fault} {shown : Text}

/-- `fault.AtTemporary shown`: the temporary file, with the path `shown`, was not made; the reason
ends in this path. -/
def AtTemporary (fault : Fault) (shown : Text) : Prop :=
  (∃ refusal, fault.cause = .temporary ⟨shown, refusal⟩) ∧
    (Text.quoted shown).toList <:+ fault.cause.reason.toList

/-- `fault.AtRename`: the temporary file did not get the name of the path; the reason names no
temporary file. -/
def AtRename (fault : Fault) : Prop :=
  (∃ refusal, fault.cause = .final refusal) ∧
    ∀ suffix, ¬temporaryName suffix <:+: fault.cause.reason.toList

/-- `fault.AtTemporary shown`: a temporary file that is not made is in the reason. -/
theorem atTemporary_of_cause_eq {refusal : Refusal}
    (h : fault.cause = .temporary ⟨shown, refusal⟩) : fault.AtTemporary shown := by
  refine ⟨⟨refusal, h⟩, ?_⟩
  rw [h, Cause.reason, String.toList_append]
  exact List.suffix_append _ _

/-- A refusal for what is in the tree is the whole reason. -/
theorem atRename_of_cause_eq {refusal : Refusal} (hrefusal : refusal.OfTree)
    (h : fault.cause = .final refusal) : fault.AtRename := by
  refine ⟨⟨refusal, h⟩, ?_⟩
  rw [h]
  exact hrefusal.temporaryName_not_isInfix

/-- `fault.path <+: fault.message.toList`: a message starts with the path. -/
theorem path_isPrefix_message (fault : Fault) : fault.path <+: fault.message.toList := by
  rw [message, String.toList_append, String.toList_append, String.toList_ofList, List.append_assoc]
  exact List.prefix_append _ _

end Save.Fault

/-! ## The ends of a save -/

/-- A save that fails says so with the path as it was given, and changes nothing. -/
theorem run_save_of_outcome_eq_error {image : Image} {path : Text} {files : FileSystem}
    {fault : Save.Fault}
    (h : ((save image path : StateM FileSystem _).run files).1.outcome = .error fault) :
    fault.path = path ∧ ((save image path : StateM FileSystem _).run files).2 = files := by
  rcases hfor : files.directoryFor (Path.directory path)
      (files.shownTemporary (Path.directory path) []) with refusal | directory
  · rw [run_save_of_directory_error hfor] at h ⊢
    obtain rfl := Except.error.inj h
    exact ⟨rfl, rfl⟩
  · rcases htarget : files.target path with refusal | target
    · obtain ⟨refusal, hrun⟩ := run_save_of_target_error hfor (by simp [htarget])
      rw [hrun] at h ⊢
      obtain rfl := Except.error.inj h
      exact ⟨rfl, rfl⟩
    · rw [run_save_of_ok hfor htarget] at h
      exact absurd h (by simp)

section Ends

variable {files : FileSystem} {path : Text} {directory : Location} (image : Image)
  (h : Path.WithinLimits path)
  (htemporary : Path.byteLength (files.shownTemporary (Path.directory path) []) ≤
    Path.maxPathLength)

include h htemporary

/-- Without the directory of the path there is no temporary file. -/
theorem run_save_of_not_resolvesTo
    (hnone : ∀ directory, ¬files.ResolvesTo (Path.directory path) directory) :
    ∃ fault, ((save image path : StateM FileSystem _).run files).1.outcome = .error fault ∧
      fault.AtTemporary (files.shownTemporary (Path.directory path) []) := by
  rcases hfor : files.directoryFor (Path.directory path)
      (files.shownTemporary (Path.directory path) []) with refusal | directory
  · rw [run_save_of_directory_error hfor]
    exact ⟨_, rfl, Save.Fault.atTemporary_of_cause_eq rfl⟩
  · exact absurd ((FileSystem.directoryFor_directory_iff h htemporary).mp hfor) (hnone directory)

/-- The temporary file does not get a path that no file can have. -/
theorem run_save_of_notForFile (hdirectory : files.ResolvesTo (Path.directory path) directory)
    (hfile : files.NotForFile path) :
    ∃ fault, ((save image path : StateM FileSystem _).run files).1.outcome = .error fault ∧
      fault.AtRename := by
  obtain ⟨refusal, hrename⟩ := FileSystem.rename_drawn_of_error
    (FileSystem.target_ne_ok_of_notForFile hfile) (Path.directory path) directory image.bytes
  have hrefusal : refusal.OfTree :=
    FileSystem.ofTree_of_rename_eq_error h (congrArg Prod.fst hrename)
  have hfor := (FileSystem.directoryFor_directory_iff h htemporary).mpr hdirectory
  rw [run_save_of_rename_error hfor hrename]
  exact ⟨_, rfl, Save.Fault.atRename_of_cause_eq hrefusal rfl⟩

/-- The image is saved as the entry in the directory that has the last name of the path. -/
theorem run_save_of_not_notForFile (hdirectory : files.ResolvesTo (Path.directory path) directory)
    (hfile : ¬files.NotForFile path) :
    ((save image path : StateM FileSystem _).run files).1.outcome = .ok () ∧
      FileSystem.SavedAt files ((save image path : StateM FileSystem _).run files).2 path
        (Path.lastSegment path :: directory) image.bytes := by
  have htarget := FileSystem.target_eq_of_resolvesTo h hdirectory hfile
  have hfor := (FileSystem.directoryFor_directory_iff h htemporary).mpr hdirectory
  rw [run_save_of_ok hfor htarget]
  exact ⟨rfl, FileSystem.savedAt_insert htarget image.bytes⟩

end Ends

/-- **A save under a path within the limits fails with the temporary file if the directory of the
path is not there, and with the name of that file if no file can have the path.** The first fault is
`AtTemporary`, of the path that this file would have had, and the second one `AtRename`; it comes
exactly if `files.NotForFile path`. Otherwise the image is the entry `Path.lastSegment path` in that
directory. A fault has the path as it was given, and its message starts with it. -/
theorem run_save_of_withinLimits {files : FileSystem} {path : Text} (image : Image)
    (h : Path.WithinLimits path)
    (htemporary : Path.byteLength (files.shownTemporary (Path.directory path) []) ≤
      Path.maxPathLength) :
    let saved := (save image path : StateM FileSystem _).run files
    ((∀ directory, ¬files.ResolvesTo (Path.directory path) directory) →
      ∃ fault, saved.1.outcome = .error fault ∧
        fault.AtTemporary (files.shownTemporary (Path.directory path) [])) ∧
    (∀ directory, files.ResolvesTo (Path.directory path) directory →
      ((∃ fault, saved.1.outcome = .error fault ∧ fault.AtRename) ↔ files.NotForFile path) ∧
      (¬files.NotForFile path → saved.1.outcome = .ok () ∧
        FileSystem.SavedAt files saved.2 path (Path.lastSegment path :: directory)
          image.bytes)) ∧
    ∀ fault, saved.1.outcome = .error fault →
      fault.path = path ∧ path <+: fault.message.toList ∧ saved.2 = files := by
  refine ⟨run_save_of_not_resolvesTo image h htemporary, ?_, ?_⟩
  · intro directory hdirectory
    refine ⟨⟨?_, run_save_of_notForFile image h htemporary hdirectory⟩,
      run_save_of_not_notForFile image h htemporary hdirectory⟩
    rintro ⟨fault, houtcome, -⟩
    by_contra hfile
    have hok := (run_save_of_not_notForFile image h htemporary hdirectory hfile).1
    exact absurd (houtcome.symm.trans hok) (by simp)
  · intro fault houtcome
    obtain ⟨hpath, hafter⟩ := run_save_of_outcome_eq_error houtcome
    have hmessage := fault.path_isPrefix_message
    rw [hpath] at hmessage
    exact ⟨hpath, hmessage, hafter⟩

/-- A path through a directory and the directory itself, to an entry that is not there yet. -/
theorem run_save_of_withinLimits_new_entry :
    let files : FileSystem := ⟨⟨[([['d']], .directory)]⟩, [], ['/'], .preferring ['x']⟩
    let path := "d/./rom.bin".toList
    Path.WithinLimits path ∧
      Path.byteLength (files.shownTemporary (Path.directory path) []) ≤ Path.maxPathLength ∧
      files.ResolvesTo (Path.directory path) [['d']] ∧ ¬files.NotForFile path ∧
      ∀ image : Image, ((save image path : StateM FileSystem _).run files).1.outcome = .ok () ∧
        FileSystem.SavedAt files ((save image path : StateM FileSystem _).run files).2 path
          ["rom.bin".toList, ['d']] image.bytes := by
  intro files path
  have h : Path.WithinLimits path := ⟨by decide, by decide, by decide⟩
  have htemporary : Path.byteLength (files.shownTemporary (Path.directory path) []) ≤
      Path.maxPathLength := by decide
  have hdirectory : files.ResolvesTo (Path.directory path) [['d']] := ⟨by decide, rfl⟩
  have hmissing : files.tree.directoryAt (files.start path) (Path.names path) =
      .error .notFound := rfl
  have hfile : ¬files.NotForFile path := by
    rintro (hempty | hslash | hself | hup | ⟨location, -, hresolves⟩)
    · exact absurd hempty (by decide)
    · exact absurd hslash (by decide)
    · exact absurd hself (by decide)
    · exact absurd hup (by decide)
    · rw [hmissing] at hresolves
      exact absurd hresolves (by simp)
  have hlast : Path.lastSegment path = "rom.bin".toList := by decide
  refine ⟨h, htemporary, hdirectory, hfile, fun image => ?_⟩
  rw [← hlast]
  exact ((run_save_of_withinLimits image h htemporary).2.1 [['d']] hdirectory).2 hfile

end RomCompiler
