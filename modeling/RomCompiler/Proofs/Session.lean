import RomCompiler.Proofs.Job
import RomCompiler.Session

/-! # Sessions change files one whole image at a time

Whatever has happened to a tree before, a step of the compiler leaves it as it was or with one more
whole image in it.
* **`Session.run_concat`** — the last step of a session acts on what the others leave behind.
* **`Session.compile_atomic`** — a step of the compiler fails without a trace or makes one entry. -/

namespace RomCompiler.Session

/-- **The last step acts on what the steps before it leave behind.** -/
theorem run_concat (allocator : Allocator) (earlier : List Step) (last : Step)
    (files : FileSystem) :
    run allocator (earlier ++ [last]) files =
      (last.run allocator (run allocator earlier files)).2 := by
  rw [run, List.foldl_append]
  rfl

/-- **A step of the compiler, after any other steps, has one of two ends.** If its answer is a
fault, `after = before`. If its answer is an image, it is the one that `compile` gives for the
listing, and `SavedAt` holds: the entry to which `job.path` leads is a file with this image, while
all else is as before. -/
theorem compile_atomic (allocator : Allocator) (earlier : List Step) (job : Job)
    (files : FileSystem) :
    let before := run allocator earlier files
    let after := run allocator (earlier ++ [.compile job]) files
    ∃ answer, ((Step.compile job).run allocator before).1 = some answer ∧
      (∀ fault, answer.outcome = .error fault → after = before) ∧
      ∀ image, answer.outcome = .ok image → ∃ markers location,
        Listing.Markers.ofChars job.separator job.comment = .ok markers ∧
        (compile allocator markers job.source job.size).outcome = .ok image ∧
        FileSystem.SavedAt before after job.path location image.bytes := by
  intro before after
  have hafter : after = ((Step.compile job).run allocator before).2 := run_concat ..
  rw [hafter]
  rcases Job.run_cases allocator job before with
    ⟨log, fault, hrun⟩ | ⟨log, markers, image, location, saved, hmarkers, hcompile, hsaved, hrun⟩
  · have hstep : (Step.compile job).run allocator before = (some ⟨log, .error fault⟩, before) := by
      rw [Step.run, hrun]
    rw [hstep]
    refine ⟨_, rfl, fun _ _ => rfl, ?_⟩
    intro image hanswer
    exact absurd hanswer (by simp)
  · have hstep : (Step.compile job).run allocator before = (some ⟨log, .ok image⟩, saved) := by
      rw [Step.run, hrun]
    rw [hstep]
    refine ⟨_, rfl, ?_, ?_⟩
    · intro fault hanswer
      exact absurd hanswer (by simp)
    · intro other hanswer
      rw [← Except.ok.inj hanswer]
      exact ⟨markers, location, hmarkers, hcompile, hsaved⟩

end RomCompiler.Session
