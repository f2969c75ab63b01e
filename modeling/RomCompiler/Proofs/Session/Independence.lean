import Mathlib.Data.List.Induction
import RomCompiler.Proofs.Session

/-! # Jobs do not get in each other's way

A job changes no directory, and what it does depends on the files of a tree in no other way. So a
session of jobs can be told from the tree before it: each job saves its image, or none, as if it
were the only one, and of the images that are saved at one location the last one stays.
* **`Job.Saves`** — what a job needs to save an image; **`Job.imageAt?`** — the image that it saves
  at a location; **`Job.imageAt?_congr`** — it is the same wherever the directories are the same.
* **`Job.sameDirectories_run`**, **`Job.find?_run`**, **`Job.run_run`** — a job keeps the
  directories, its image is found after it, and a second time it changes nothing.
* **`Session.sameDirectories_run`**, **`Session.find?_run`** — so do jobs one after the other, and
  the last image of each location is found after them.
* **`Session.Reordering`** — another order of some jobs, in which those with one location come as
  before; **`Session.compile_independent`** — it leads to the same tree. -/

namespace RomCompiler

variable {allocator : Allocator} {files other : FileSystem} {image : Image} {job : Job}
  {path : Text} {location : Location}

/-! ## What a job depends on -/

/-- **A job has all that it needs to save an image**: its markers can be markers, the image is that
of its listing, and its path has a directory (`directoryFor`) and a place for it (`target`). -/
def Job.Saves (allocator : Allocator) (files : FileSystem) (job : Job) (image : Image) : Prop :=
  ∃ markers, Listing.Markers.ofChars job.separator job.comment = .ok markers ∧
    (compile allocator markers job.source job.size).outcome = .ok image ∧
    (∃ directory, files.directoryFor (Path.directory job.path)
      (files.shownTemporary (Path.directory job.path) []) = .ok directory) ∧
    ∃ location, files.target job.path = .ok location

/-- A job ends with an image if it has all that it needs to save it. -/
theorem Job.outcome_run_iff_saves :
    ((job.run allocator : StateM FileSystem _).run files).1.outcome = .ok image ↔
      job.Saves allocator files image := by
  rw [Job.outcome_run_eq_ok_iff, Job.Saves]
  simp only [outcome_save_eq_ok_iff]

namespace FileSystem.SameDirectories

variable (h : SameDirectories files other)

include h

/-- Temporary files are shown with the same paths. -/
theorem shownTemporary_eq (directory : Text) (taken : List Text) :
    files.shownTemporary directory taken = other.shownTemporary directory taken := by
  rw [shownTemporary, shownTemporary, shownPath, shownPath, h.shownDirectory_eq, h.nameSource_eq]

/-- The same jobs have what they need. -/
theorem saves_iff : job.Saves allocator files image ↔ job.Saves allocator other image := by
  rw [Job.Saves, Job.Saves, h.shownTemporary_eq]
  simp only [h.directoryFor_iff, h.target_iff]

/-- The same jobs end with the same images. -/
theorem outcome_run_iff :
    ((job.run allocator : StateM FileSystem _).run files).1.outcome = .ok image ↔
      ((job.run allocator : StateM FileSystem _).run other).1.outcome = .ok image := by
  rw [Job.outcome_run_iff_saves, Job.outcome_run_iff_saves, h.saves_iff]

end FileSystem.SameDirectories

namespace Job

/-- `job.imageAt? allocator files location`: the image that a job saves at a location of a file
system, if it saves one there. -/
def imageAt? (allocator : Allocator) (files : FileSystem) (location : Location) (job : Job) :
    Option Image :=
  match ((job.run allocator : StateM FileSystem _).run files).1.outcome, files.target job.path with
  | .ok image, .ok target => if target = location then some image else none
  | _, _ => none

/-- A job saves an image at a location if it ends with the image and its path leads there. -/
theorem imageAt?_eq_some_iff :
    job.imageAt? allocator files location = some image ↔
      ((job.run allocator : StateM FileSystem _).run files).1.outcome = .ok image ∧
        files.target job.path = .ok location := by
  unfold imageAt?
  split
  · next compiled target hrun htarget =>
    rw [hrun, htarget]
    split
    · next heq => simp [heq]
    · next hne => simp [hne]
  · next hnone =>
    constructor
    · intro h
      exact absurd h (by simp)
    · rintro ⟨hrun, htarget⟩
      exact absurd htarget (hnone image location hrun)

/-- **A job saves the same image at a location wherever there are the same directories.** -/
theorem imageAt?_congr (h : FileSystem.SameDirectories files other) (location : Location)
    (job : Job) :
    job.imageAt? allocator files location = job.imageAt? allocator other location := by
  apply Option.ext
  intro image
  rw [imageAt?_eq_some_iff, imageAt?_eq_some_iff, h.outcome_run_iff, h.target_iff]

/-! ## What a job changes -/

/-- **A job keeps all directories as they are.** -/
theorem sameDirectories_run (allocator : Allocator) (job : Job) (files : FileSystem) :
    FileSystem.SameDirectories files ((job.run allocator : StateM FileSystem _).run files).2 := by
  rcases run_cases allocator job files with
    ⟨log, fault, hrun⟩ | ⟨log, markers, image, target, after, -, -, hsaved, hrun⟩
  · rw [hrun]
    exact .refl files
  · rw [hrun]
    exact hsaved.sameDirectories

/-- **After a job its image is found where the job saves it, and all else is as before.** -/
theorem find?_run (allocator : Allocator) (job : Job) (files : FileSystem) (location : Location) :
    ((job.run allocator : StateM FileSystem _).run files).2.tree.find? location =
      ((job.imageAt? allocator files location).map fun image => .file image.bytes).or
        (files.tree.find? location) := by
  rcases run_cases allocator job files with
    ⟨log, fault, hrun⟩ | ⟨log, markers, image, target, after, -, -, hsaved, hrun⟩
  · have hnone : job.imageAt? allocator files location = none := by
      rw [imageAt?, hrun]
    rw [hnone, hrun]
    rfl
  · have hsome : job.imageAt? allocator files location =
        if target = location then some image else none := by
      rw [imageAt?, hrun, hsaved.target_eq]
    rw [hsome, hrun]
    by_cases hlocation : target = location
    · rw [if_pos hlocation, ← hlocation, hsaved.find?_eq]
      rfl
    · rw [if_neg hlocation, hsaved.find?_of_ne _ (Ne.symm hlocation)]
      rfl

/-- **A job that is done twice ends with the same result, and changes nothing the second time.** -/
theorem run_run (allocator : Allocator) (job : Job) (files : FileSystem) :
    let once := (job.run allocator : StateM FileSystem _).run files
    let twice := (job.run allocator : StateM FileSystem _).run once.2
    twice.1.outcome = once.1.outcome ∧ twice.2 = once.2 := by
  intro once twice
  rcases run_cases allocator job files with
    ⟨log, fault, hrun⟩ | ⟨log, markers, image, target, after, -, -, hsaved, hrun⟩
  · -- a job that fails leaves the file system in which it fails
    have hsame : once.2 = files := by
      show ((job.run allocator : StateM FileSystem _).run files).2 = files
      rw [hrun]
    have htwice : twice = once := by
      show (job.run allocator : StateM FileSystem _).run once.2 = once
      rw [hsame]
    rw [htwice]
    exact ⟨rfl, rfl⟩
  · have honce : once = (⟨log, .ok image⟩, after) := hrun
    have htwice : twice = (job.run allocator : StateM FileSystem _).run after := by
      show (job.run allocator : StateM FileSystem _).run once.2 = _
      rw [honce]
    have hsame := hsaved.sameDirectories
    have houtcome : twice.1.outcome = .ok image := by
      rw [htwice, ← hsame.outcome_run_iff, hrun]
    have htarget : after.target job.path = .ok target := hsame.target_iff.mp hsaved.target_eq
    rw [honce]
    refine ⟨houtcome, ?_⟩
    rcases run_cases allocator job after with
      ⟨_, fault, hrun'⟩ | ⟨_, _, image', target', after', -, -, hsaved', hrun'⟩
    · rw [htwice, hrun'] at houtcome
      exact absurd houtcome (by simp)
    · -- the same image is put into the same place, where it is already
      rw [htwice, hrun'] at houtcome ⊢
      obtain rfl := Except.ok.inj houtcome
      obtain rfl := Except.ok.inj (hsaved'.target_eq.symm.trans htarget)
      show after' = after
      rw [hsaved'.after_eq, hsaved.after_eq, Tree.insert_insert]

end Job

/-! ## Sessions of jobs -/

namespace Session

/-- The last job acts on what the jobs before it leave behind. -/
theorem run_compile_concat (allocator : Allocator) (earlier : List Job) (last : Job)
    (files : FileSystem) :
    run allocator ((earlier ++ [last]).map .compile) files =
      ((last.run allocator : StateM FileSystem _).run
        (run allocator (earlier.map .compile) files)).2 := by
  rw [List.map_append, List.map_singleton, run_concat]
  rfl

/-- **Jobs keep all directories as they are.** -/
theorem sameDirectories_run (allocator : Allocator) (jobs : List Job) (files : FileSystem) :
    FileSystem.SameDirectories files (run allocator (jobs.map .compile) files) := by
  induction jobs using List.reverseRecOn with
  | nil => exact .refl files
  | append_singleton earlier last ih =>
    rw [run_compile_concat]
    exact ih.trans (last.sameDirectories_run allocator _)

/-- **After some jobs, each location has the last of the images that are saved there.** If there is
none it is as before. -/
theorem find?_run (allocator : Allocator) (jobs : List Job) (files : FileSystem)
    (location : Location) :
    (run allocator (jobs.map .compile) files).tree.find? location =
      ((jobs.filterMap (Job.imageAt? allocator files location)).getLast?.map
        fun image => .file image.bytes).or (files.tree.find? location) := by
  induction jobs using List.reverseRecOn with
  | nil => rfl
  | append_singleton earlier last ih =>
    -- the last job finds the directories of the start, so it saves what it would save there
    have hsame := sameDirectories_run allocator earlier files
    rw [run_compile_concat, Job.find?_run, ← Job.imageAt?_congr hsame, ih, List.filterMap_append]
    rcases hlast : last.imageAt? allocator files location with _ | image
    · rw [List.filterMap_cons_none hlast, List.filterMap_nil, List.append_nil]
      rfl
    · rw [List.filterMap_cons_some hlast, List.filterMap_nil, List.getLast?_concat]
      rfl

/-! ## Other orders -/

/-- **Another order of some jobs**: with `Reordering files jobs other` the jobs whose paths lead to
one location come in the same order as before. -/
structure Reordering (files : FileSystem) (jobs other : List Job) : Prop where
  /-- The jobs are the same. -/
  perm : jobs.Perm other
  /-- Those with the same location come in the same order. -/
  filter_eq : ∀ location,
    jobs.filter (fun job => files.target job.path = .ok location) =
      other.filter fun job => files.target job.path = .ok location

/-- Two jobs that come one after the other can change places if their paths lead to different
locations. -/
theorem reordering_swap {first second : Job} (front back : List Job)
    (h : ∀ location, files.target first.path = .ok location →
      files.target second.path ≠ .ok location) :
    Reordering files (front ++ first :: second :: back) (front ++ second :: first :: back) where
  perm := (List.Perm.swap second first back).append_left front
  filter_eq := by
    intro location
    rw [List.filter_append, List.filter_append]
    congr 1
    -- one of the two does not have this location, so it is not among the jobs that keep their order
    by_cases hfirst : files.target first.path = .ok location
    · simp [h location hfirst, List.filter_cons]
    · simp [hfirst, List.filter_cons]

-- one entry has two spellings here, and the job of another entry goes in front of both
example (first second third : Job) (hfirst : first.path = ['a']) (hsecond : second.path = ['b'])
    (hthird : third.path = ['.', '/', 'a']) :
    let files : FileSystem := ⟨.empty, [], ['/'], .preferring []⟩
    files.target first.path = files.target third.path ∧
      Reordering files [first, second, third] [second, first, third] := by
  rw [hfirst, hthird]
  refine ⟨rfl, reordering_swap [] [third] ?_⟩
  rw [hfirst, hsecond]
  rintro location hlocation hsame
  obtain rfl := Except.ok.inj hlocation
  exact absurd hsame (by decide)

/-- The images that are saved at a location are those of the jobs whose paths lead there. -/
theorem filterMap_imageAt? (allocator : Allocator) (files : FileSystem) (location : Location)
    (jobs : List Job) :
    jobs.filterMap (Job.imageAt? allocator files location) =
      (jobs.filter fun job => files.target job.path = .ok location).filterMap
        (Job.imageAt? allocator files location) := by
  rw [List.filterMap_filter]
  congr 1
  funext job
  split
  · rfl
  · next hnot =>
    -- the path leads elsewhere or nowhere
    apply Option.eq_none_iff_forall_ne_some.mpr
    intro image himage
    rw [decide_eq_true_iff] at hnot
    exact hnot (Job.imageAt?_eq_some_iff.mp himage).2

/-- In another order that keeps the order of the jobs with one location, the jobs lead to the same
tree. -/
theorem Reordering.find?_eq {jobs other : List Job} (h : Reordering files jobs other)
    (allocator : Allocator) (location : Location) :
    (run allocator (other.map .compile) files).tree.find? location =
      (run allocator (jobs.map .compile) files).tree.find? location := by
  rw [find?_run, find?_run, filterMap_imageAt?, filterMap_imageAt? _ _ _ jobs, h.filter_eq]

/-- **Jobs do not get in each other's way.** After any jobs, another one ends with the same image as
without them, or with none as without them: `job.Saves` it, or not. The directories are as before,
and each path leads to the same place. The tree then has the last image that was saved at each
location (`Job.imageAt?`), and is as before where none was; so it is the same for any `Reordering`
of the jobs, in which those with one location keep their order. And to do a job again right away
changes neither its result nor the file system. -/
theorem compile_independent (allocator : Allocator) (jobs : List Job) (files : FileSystem) :
    let final := run allocator (jobs.map .compile) files
    (∀ (job : Job) (image : Image),
      (((job.run allocator : StateM FileSystem _).run final).1.outcome = .ok image ↔
        ((job.run allocator : StateM FileSystem _).run files).1.outcome = .ok image) ∧
      (((job.run allocator : StateM FileSystem _).run files).1.outcome = .ok image ↔
        job.Saves allocator files image)) ∧
    (∀ location, final.tree.isDirectory location = files.tree.isDirectory location) ∧
    (∀ path location, final.target path = .ok location ↔ files.target path = .ok location) ∧
    final = { files with tree := final.tree } ∧
    (∀ location, final.tree.find? location =
      ((jobs.filterMap (Job.imageAt? allocator files location)).getLast?.map
        fun image => .file image.bytes).or (files.tree.find? location)) ∧
    (∀ other, Reordering files jobs other → ∀ location,
      (run allocator (other.map .compile) files).tree.find? location =
        final.tree.find? location) ∧
    ∀ job : Job,
      let once := (job.run allocator : StateM FileSystem _).run final
      let twice := (job.run allocator : StateM FileSystem _).run once.2
      twice.1.outcome = once.1.outcome ∧ twice.2 = once.2 := by
  intro final
  have hsame : FileSystem.SameDirectories files final := sameDirectories_run allocator jobs files
  refine ⟨?_, ?_, ?_, hsame.eq_with_tree, ?_, ?_, ?_⟩
  · intro job image
    exact ⟨hsame.outcome_run_iff.symm, Job.outcome_run_iff_saves⟩
  · intro location
    exact (hsame.isDirectory_eq location).symm
  · intro path location
    exact hsame.target_iff.symm
  · intro location
    exact find?_run allocator jobs files location
  · intro other hother location
    exact hother.find?_eq allocator location
  · intro job
    exact job.run_run allocator final

end Session

end RomCompiler
