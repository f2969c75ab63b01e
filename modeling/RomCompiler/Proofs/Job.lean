import RomCompiler.Job
import RomCompiler.Proofs.FileSystem.Save

/-! # Jobs in a file system

A job touches files only when its image is saved, so the file system is as before unless all goes
well, and then it has the image.
* **`outcome_compile_of_listing_error`**, **`outcome_compile_of_listing_ok`** — the result of
  compiling, told from those of its stages; **`outcome_compile_eq_ok_iff`** — when it is an image.
* **`run_produce_of_error`**, **`run_produce_of_ok`** — compiling and saving, told from the result
  of compiling and from the save; **`outcome_produce_eq_ok_iff`** — when both go well.
* **`Job.run_of_markers_error`**, **`Job.run_of_markers_ok`** — a job does the same with its own
  markers; **`Job.outcome_run_eq_ok_iff`** — when it ends with an image.
* **`Job.run_cases`** — a job that fails changes nothing, and one that succeeds makes one entry. -/

namespace RomCompiler

variable {allocator : Allocator} {markers : Listing.Markers} {source : Option Text} {size : Nat}
  {path : Text} {image : Image} {files after : FileSystem}

/-! ## The stages of a compilation -/

/-- **A listing with a fault has no image, whatever its size.** -/
theorem outcome_compile_of_listing_error {fault : Listing.Fault}
    (h : (Compilation.code markers source).outcome = .error fault) (allocator : Allocator)
    (size : Nat) :
    (compile allocator markers source size).outcome = .error (.listing fault) := by
  rcases hcode : Compilation.code markers source with ⟨log, outcome⟩
  obtain rfl : outcome = .error fault := by
    rw [← h, hcode]
  rw [compile, hcode]
  rfl

/-- **The image of a listing is the one around its bytes, if there is one of its size.** -/
theorem outcome_compile_of_listing_ok {code : Bytes}
    (h : (Compilation.code markers source).outcome = .ok code) (allocator : Allocator)
    (size : Nat) :
    (compile allocator markers source size).outcome =
      (Image.build allocator code size).outcome.mapError .image := by
  rcases hcode : Compilation.code markers source with ⟨log, outcome⟩
  obtain rfl : outcome = .ok code := by
    rw [← h, hcode]
  rw [compile, hcode]
  rfl

/-- `result.mapError f = .ok value ↔ result = .ok value`: a result whose fault is read as one of a
wider kind is the same value, if it is a value. -/
theorem mapError_eq_ok_iff {ε ε' α : Type} {f : ε → ε'} {result : Except ε α} {value : α} :
    result.mapError f = .ok value ↔ result = .ok value := by
  rcases result with fault | other
  · constructor
    · intro h
      cases h
    · intro h
      cases h
  · show Except.ok other = Except.ok value ↔ _
    rw [Except.ok.injEq, Except.ok.injEq]

/-- **There is an image if there is code for it and it can be built around the code.** -/
theorem outcome_compile_eq_ok_iff :
    (compile allocator markers source size).outcome = .ok image ↔
      ∃ code, (Compilation.code markers source).outcome = .ok code ∧
        (Image.build allocator code size).outcome = .ok image := by
  rcases hcode : (Compilation.code markers source).outcome with fault | code
  · rw [outcome_compile_of_listing_error hcode]
    simp
  · rw [outcome_compile_of_listing_ok hcode, mapError_eq_ok_iff]
    simp

/-! ## Compiling and saving -/

/-- **Without an image no file is touched.** -/
theorem run_produce_of_error {fault : Compilation.Fault}
    (h : (compile allocator markers source size).outcome = .error fault) (path : Text)
    (files : FileSystem) :
    (produce allocator markers source size path : StateM FileSystem _).run files =
      (⟨(compile allocator markers source size).log, .error (.compilation fault)⟩, files) := by
  rcases hcompile : compile allocator markers source size with ⟨log, outcome⟩
  obtain rfl : outcome = .error fault := by
    rw [← h, hcompile]
  rw [produce, hcompile]
  rfl

/-- **An image is saved, and the result is that of the save.** -/
theorem run_produce_of_ok {saved : Logged Save.Fault Unit}
    (h : (compile allocator markers source size).outcome = .ok image)
    (hsave : (save image path : StateM FileSystem _).run files = (saved, after)) :
    (produce allocator markers source size path : StateM FileSystem _).run files =
      (⟨(compile allocator markers source size).log ++ saved.log,
        (saved.outcome.mapError Job.Fault.saving).map fun _ => image⟩, after) := by
  rcases hcompile : compile allocator markers source size with ⟨log, outcome⟩
  obtain rfl : outcome = .ok image := by
    rw [← h, hcompile]
  rw [produce, hcompile]
  refine (run_bind_of_run hsave).trans ?_
  rcases saved with ⟨savedLog, fault | _⟩ <;> simp [Logged.mapFault] <;> rfl

/-- **The result is an image if it is compiled and saved.** -/
theorem outcome_produce_eq_ok_iff :
    ((produce allocator markers source size path : StateM FileSystem _).run files).1.outcome =
        .ok image ↔
      (compile allocator markers source size).outcome = .ok image ∧
        ((save image path : StateM FileSystem _).run files).1.outcome = .ok () := by
  rcases hcompile : (compile allocator markers source size).outcome with fault | compiled
  · rw [run_produce_of_error hcompile]
    simp
  · rcases hsave : (save compiled path : StateM FileSystem _).run files with ⟨saved, after⟩
    rw [run_produce_of_ok hcompile hsave]
    rcases hsaved : saved.outcome with fault | _
    · constructor
      · intro h
        cases h
      · rintro ⟨hsame, hother⟩
        obtain rfl := Except.ok.inj hsame
        rw [hsave, hsaved] at hother
        cases hother
    · constructor
      · intro h
        obtain rfl : compiled = image := Except.ok.inj h
        rw [hsave]
        exact ⟨rfl, hsaved⟩
      · rintro ⟨hsame, -⟩
        obtain rfl := Except.ok.inj hsame
        rfl

/-- Compiling and saving either fails and changes nothing, or makes the entry of the image. -/
theorem run_produce_cases (allocator : Allocator) (markers : Listing.Markers)
    (source : Option Text) (size : Nat) (path : Text) (files : FileSystem) :
    (∃ log fault, (produce allocator markers source size path : StateM FileSystem _).run files =
      (⟨log, .error fault⟩, files)) ∨
    ∃ log image location after, (compile allocator markers source size).outcome = .ok image ∧
      FileSystem.SavedAt files after path location image.bytes ∧
      (produce allocator markers source size path : StateM FileSystem _).run files =
        (⟨log, .ok image⟩, after) := by
  rcases hcompile : (compile allocator markers source size).outcome with fault | image
  · exact Or.inl ⟨_, _, run_produce_of_error hcompile path files⟩
  · rcases run_save_cases image path files with ⟨log, fault, hsave⟩ | ⟨log, location, hpath, hsave⟩
    · exact Or.inl ⟨_, _, run_produce_of_ok hcompile hsave⟩
    · exact Or.inr ⟨_, image, location, _, rfl, FileSystem.savedAt_insert hpath image.bytes,
        run_produce_of_ok hcompile hsave⟩

/-! ## Jobs -/

namespace Job

variable {job : Job}

/-- **Without markers nothing is done.** -/
theorem run_of_markers_error {fault : Listing.Markers.Fault}
    (h : Listing.Markers.ofChars job.separator job.comment = .error fault) :
    (job.run allocator : StateM FileSystem _).run files = (.fail (.markers fault), files) := by
  rw [Job.run, h]
  rfl

/-- **With its markers a job compiles and saves.** -/
theorem run_of_markers_ok
    (h : Listing.Markers.ofChars job.separator job.comment = .ok markers) (allocator : Allocator)
    (files : FileSystem) :
    (job.run allocator : StateM FileSystem _).run files =
      (produce allocator markers job.source job.size job.path : StateM FileSystem _).run files := by
  rw [Job.run, h]

/-- **The result of a job is an image if its markers are right and the image is compiled and
saved.** -/
theorem outcome_run_eq_ok_iff :
    ((job.run allocator : StateM FileSystem _).run files).1.outcome = .ok image ↔
      ∃ markers, Listing.Markers.ofChars job.separator job.comment = .ok markers ∧
        (compile allocator markers job.source job.size).outcome = .ok image ∧
        ((save image job.path : StateM FileSystem _).run files).1.outcome = .ok () := by
  rcases hmarkers : Listing.Markers.ofChars job.separator job.comment with fault | markers
  · rw [run_of_markers_error hmarkers]
    simp [Logged.fail]
  · rw [run_of_markers_ok hmarkers, outcome_produce_eq_ok_iff]
    simp

/-- **A job either fails and changes nothing, or makes the entry of its image.** -/
theorem run_cases (allocator : Allocator) (job : Job) (files : FileSystem) :
    (∃ log fault, (job.run allocator : StateM FileSystem _).run files =
      (⟨log, .error fault⟩, files)) ∨
    ∃ log markers image location after,
      Listing.Markers.ofChars job.separator job.comment = .ok markers ∧
      (compile allocator markers job.source job.size).outcome = .ok image ∧
      FileSystem.SavedAt files after job.path location image.bytes ∧
      (job.run allocator : StateM FileSystem _).run files = (⟨log, .ok image⟩, after) := by
  rcases hmarkers : Listing.Markers.ofChars job.separator job.comment with fault | markers
  · exact Or.inl ⟨[], _, run_of_markers_error hmarkers⟩
  · have hrun := run_of_markers_ok hmarkers allocator files
    rcases run_produce_cases allocator markers job.source job.size job.path files with
      ⟨log, fault, hproduce⟩ | ⟨log, image, location, after, hcompile, hsaved, hproduce⟩
    · exact Or.inl ⟨log, fault, hrun.trans hproduce⟩
    · exact Or.inr ⟨log, markers, image, location, after, rfl, hcompile, hsaved,
        hrun.trans hproduce⟩

end Job

end RomCompiler
