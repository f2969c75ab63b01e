import RomCompiler.Proofs.CommandLine.Report
import RomCompiler.Proofs.CommandLine.Supply
import RomCompiler.Proofs.Job

/-! # The stages of a run

A run of the program goes through six stages, and the first one that fails decides what the user
sees. Files are touched by the last stage only, so there is an image or no trace of the run.
* **`Stage`**, **`FailsAt`** — the stages, and when a run fails at one of them: all stages before it
  succeed, nothing is asked of those after it, and the user is told of this one.
* **`FailsAt.runIn_eq`** — the outcome of a run that fails at a stage.
* **`failsAt_or_savedAt`** — a run that fails at no stage makes the entry of its image.
* **`run_all_or_nothing`** — the outcome and the files after any run. -/

namespace RomCompiler.CommandLine

/-- **A stage of a run.** -/
inductive Stage where
  /-- The arguments are read. -/
  | arguments
  /-- The markers are judged. -/
  | markers
  /-- The listing is read. -/
  | source
  /-- The listing is decoded. -/
  | listing
  /-- The image is built. -/
  | image
  /-- The image is saved. -/
  | saving
  deriving DecidableEq, Repr

/-- **The status of a run that fails at a stage**: two for wrong arguments, and one for any other
fault. -/
def Stage.status : Stage → Nat
  | .arguments => 2
  | _ => 1

/-- **A run in a file system**, `run` with the given standard input: its outcome, and the files
after it. -/
def runIn (allocator : Allocator) (standardInput : Bytes) (arguments : List Text)
    (files : FileSystem) : Outcome × FileSystem :=
  (run allocator (pure standardInput : StateM FileSystem Bytes) arguments).run files

/-- `savedIn image path files`: the result of saving an image. -/
def savedIn (image : Image) (path : Text) (files : FileSystem) : Except Save.Fault Unit :=
  ((save image path : StateM FileSystem _).run files).1.outcome

/-- **A run that fails at a stage**: `FailsAt allocator standardInput arguments files stage errors`
says that it goes well up to `stage` and fails there, and that `errors` is the text about it. -/
inductive FailsAt (allocator : Allocator) (standardInput : Bytes) (arguments : List Text)
    (files : FileSystem) : Stage → String → Prop
  /-- The arguments are not in order. -/
  | arguments {fault : UsageFault} (h : Request.ofArguments arguments = .error fault) :
      FailsAt allocator standardInput arguments files .arguments fault.told
  /-- The characters can't be markers. -/
  | markers {options : Options} {fault : Listing.Markers.Fault}
      (hrequest : Request.ofArguments arguments = .ok (.compile options))
      (h : Listing.Markers.ofChars options.separator options.comment = .error fault) :
      FailsAt allocator standardInput arguments files .markers (Failure.job (.markers fault)).told
  /-- The source has no listing. -/
  | source {options : Options} {markers : Listing.Markers} {fault : SourceFault}
      (hrequest : Request.ofArguments arguments = .ok (.compile options))
      (hmarkers : Listing.Markers.ofChars options.separator options.comment = .ok markers)
      (h : Supplied standardInput files options.source (.error fault)) :
      FailsAt allocator standardInput arguments files .source (Failure.source fault).told
  /-- The listing has a token that is not a byte. -/
  | listing {options : Options} {markers : Listing.Markers} {source : Option Text}
      {fault : Listing.Fault} (hrequest : Request.ofArguments arguments = .ok (.compile options))
      (hmarkers : Listing.Markers.ofChars options.separator options.comment = .ok markers)
      (hsource : Supplied standardInput files options.source (.ok source))
      (h : (Compilation.code markers source).outcome = .error fault) :
      FailsAt allocator standardInput arguments files .listing
        (Failure.job (.compilation (.listing fault))).told
  /-- There is no image of the size around the bytes. -/
  | image {options : Options} {markers : Listing.Markers} {source : Option Text} {code : Bytes}
      {fault : Image.Fault} (hrequest : Request.ofArguments arguments = .ok (.compile options))
      (hmarkers : Listing.Markers.ofChars options.separator options.comment = .ok markers)
      (hsource : Supplied standardInput files options.source (.ok source))
      (hcode : (Compilation.code markers source).outcome = .ok code)
      (h : (Image.build allocator code options.size.toNat).outcome = .error fault) :
      FailsAt allocator standardInput arguments files .image
        (Failure.job (.compilation (.image fault))).told
  /-- The image is not saved. -/
  | saving {options : Options} {markers : Listing.Markers} {source : Option Text} {code : Bytes}
      {image : Image} {fault : Save.Fault}
      (hrequest : Request.ofArguments arguments = .ok (.compile options))
      (hmarkers : Listing.Markers.ofChars options.separator options.comment = .ok markers)
      (hsource : Supplied standardInput files options.source (.ok source))
      (hcode : (Compilation.code markers source).outcome = .ok code)
      (himage : (Image.build allocator code options.size.toNat).outcome = .ok image)
      (h : savedIn image options.output files = .error fault) :
      FailsAt allocator standardInput arguments files .saving (Failure.job (.saving fault)).told

variable {allocator : Allocator} {standardInput : Bytes} {arguments : List Text}
  {files after : FileSystem} {options : Options} {markers : Listing.Markers}
  {source : Option Text} {image : Image}

/-! ## One stage after the other -/

/-- Without markers no listing is read. -/
theorem run_execute_of_markers_error {fault : Listing.Markers.Fault}
    (h : Listing.Markers.ofChars options.separator options.comment = .error fault) :
    (options.execute allocator (pure standardInput : StateM FileSystem Bytes)).run files =
      (.error (.job (.markers fault)), files) := by
  rw [Options.execute, h]
  rfl

/-- Without a listing nothing is compiled. -/
theorem run_execute_of_source_error {fault : SourceFault}
    (hmarkers : Listing.Markers.ofChars options.separator options.comment = .ok markers)
    (h : sourceIn standardInput options.source files = .error fault) :
    (options.execute allocator (pure standardInput : StateM FileSystem Bytes)).run files =
      (.error (.source fault), files) := by
  have hread := run_readSource standardInput options.source files
  rw [h] at hread
  rw [Options.execute, hmarkers]
  exact run_bind_of_run hread

/-- A listing is compiled and its image saved. -/
theorem run_execute_of_source_ok {produced : Logged Job.Fault Image}
    (hmarkers : Listing.Markers.ofChars options.separator options.comment = .ok markers)
    (hsource : sourceIn standardInput options.source files = .ok source)
    (h : (produce allocator markers source options.size.toNat options.output :
      StateM FileSystem _).run files = (produced, after)) :
    (options.execute allocator (pure standardInput : StateM FileSystem Bytes)).run files =
      (produced.outcome.mapError .job, after) := by
  have hread := run_readSource standardInput options.source files
  rw [hsource] at hread
  rw [Options.execute, hmarkers]
  refine (run_bind_of_run hread).trans ?_
  exact run_bind_of_run h

/-- A compilation that fails is what the user is told about. -/
theorem runIn_of_error {failure : Failure}
    (hrequest : Request.ofArguments arguments = .ok (.compile options))
    (h : (options.execute allocator (pure standardInput : StateM FileSystem Bytes)).run files =
      (.error failure, after)) :
    runIn allocator standardInput arguments files = (⟨1, "", failure.told⟩, after) := by
  rw [runIn, run, hrequest, Failure.told, ← failure.message_eq_words]
  exact run_bind_of_run h

/-- After a compilation that succeeds the user sees the hexdump, if it was asked for. -/
theorem runIn_of_ok (hrequest : Request.ofArguments arguments = .ok (.compile options))
    (h : (options.execute allocator (pure standardInput : StateM FileSystem Bytes)).run files =
      (.ok image, after)) :
    runIn allocator standardInput arguments files =
      (.success (if options.hexdump then String.ofList (Hexdump.render image.bytes) else ""),
        after) := by
  rw [runIn, run, hrequest]
  exact run_bind_of_run h

/-! ## The first stage that fails -/

/-- A save that fails changes no files. -/
theorem run_save_of_savedIn_error {path : Text} {fault : Save.Fault}
    (h : savedIn image path files = .error fault) :
    ∃ log, (save image path : StateM FileSystem _).run files = (⟨log, .error fault⟩, files) := by
  rcases run_save_cases image path files with ⟨log, other, hrun⟩ | ⟨log, target, -, hrun⟩
  · rw [savedIn, hrun] at h
    obtain rfl := Except.error.inj h
    exact ⟨log, hrun⟩
  · rw [savedIn, hrun] at h
    exact absurd h (by simp)

/-- A save that succeeds makes the entry of its image. -/
theorem run_save_of_savedIn_ok {path : Text} (h : savedIn image path files = .ok ()) :
    ∃ log location after, FileSystem.SavedAt files after path location image.bytes ∧
      (save image path : StateM FileSystem _).run files = (⟨log, .ok ()⟩, after) := by
  rcases run_save_cases image path files with ⟨log, fault, hrun⟩ | ⟨log, target, htarget, hrun⟩
  · rw [savedIn, hrun] at h
    exact absurd h (by simp)
  · exact ⟨log, target, _, FileSystem.savedAt_insert htarget image.bytes, hrun⟩

/-- **A run that fails at a stage** has the status of this stage, tells the user about it and shows
nothing else, and changes no files. -/
theorem FailsAt.runIn_eq {stage : Stage} {errors : String}
    (h : FailsAt allocator standardInput arguments files stage errors) :
    runIn allocator standardInput arguments files = (⟨stage.status, "", errors⟩, files) := by
  -- one case for each stage: those before it are passed, and those after it are not begun
  cases h with
  | @arguments fault h =>
    rw [runIn, run, h, ← fault.report_eq_told]
    rfl
  | markers hrequest h => exact runIn_of_error hrequest (run_execute_of_markers_error h)
  | source hrequest hmarkers h =>
    exact runIn_of_error hrequest (run_execute_of_source_error hmarkers (supplied_iff.mp h))
  | @listing options _ _ _ hrequest hmarkers hsource h =>
    have hcompile := outcome_compile_of_listing_error h allocator options.size.toNat
    have hproduce := run_produce_of_error hcompile options.output files
    exact runIn_of_error hrequest
      (run_execute_of_source_ok hmarkers (supplied_iff.mp hsource) hproduce)
  | @image options _ _ _ _ hrequest hmarkers hsource hcode h =>
    have hcompile := outcome_compile_of_listing_ok hcode allocator options.size.toNat
    rw [h] at hcompile
    have hproduce := run_produce_of_error hcompile options.output files
    exact runIn_of_error hrequest
      (run_execute_of_source_ok hmarkers (supplied_iff.mp hsource) hproduce)
  | @saving options _ _ _ _ _ hrequest hmarkers hsource hcode himage h =>
    have hcompile := outcome_compile_of_listing_ok hcode allocator options.size.toNat
    rw [himage] at hcompile
    obtain ⟨log, hsave⟩ := run_save_of_savedIn_error h
    have hproduce := run_produce_of_ok hcompile hsave
    exact runIn_of_error hrequest
      (run_execute_of_source_ok hmarkers (supplied_iff.mp hsource) hproduce)

/-- **A run that was asked for an image fails at a stage, or else makes the entry of the image.** -/
theorem failsAt_or_savedAt (allocator : Allocator) (standardInput : Bytes)
    (hrequest : Request.ofArguments arguments = .ok (.compile options)) (files : FileSystem) :
    (∃ stage errors, FailsAt allocator standardInput arguments files stage errors) ∨
    ∃ markers source image location after,
      Listing.Markers.ofChars options.separator options.comment = .ok markers ∧
      Supplied standardInput files options.source (.ok source) ∧
      (compile allocator markers source options.size.toNat).outcome = .ok image ∧
      FileSystem.SavedAt files after options.output location image.bytes ∧
      runIn allocator standardInput arguments files =
        (.success (if options.hexdump then String.ofList (Hexdump.render image.bytes) else ""),
          after) := by
  rcases hmarkers : Listing.Markers.ofChars options.separator options.comment with fault | markers
  · exact Or.inl ⟨_, _, .markers hrequest hmarkers⟩
  rcases hread : sourceIn standardInput options.source files with fault | source
  · exact Or.inl ⟨_, _, .source hrequest hmarkers (supplied_iff.mpr hread)⟩
  have hsource : Supplied standardInput files options.source (.ok source) := supplied_iff.mpr hread
  rcases hcode : (Compilation.code markers source).outcome with fault | code
  · exact Or.inl ⟨_, _, .listing hrequest hmarkers hsource hcode⟩
  rcases himage : (Image.build allocator code options.size.toNat).outcome with fault | image
  · exact Or.inl ⟨_, _, .image hrequest hmarkers hsource hcode himage⟩
  rcases hsaved : savedIn image options.output files with fault | _
  · exact Or.inl ⟨_, _, .saving hrequest hmarkers hsource hcode himage hsaved⟩
  -- no stage has failed
  right
  have hcompile := outcome_compile_of_listing_ok hcode allocator options.size.toNat
  rw [himage] at hcompile
  obtain ⟨log, location, after, hentry, hsave⟩ := run_save_of_savedIn_ok hsaved
  have hproduce := run_produce_of_ok hcompile hsave
  exact ⟨markers, source, image, location, after, rfl, hsource, hcompile, hentry,
    runIn_of_ok hrequest (run_execute_of_source_ok hmarkers hread hproduce)⟩

/-- **A run is all or nothing.** If it `FailsAt` a stage, this one alone decides: the status is
`stage.status`, the text on the standard error output is `errors`, nothing is on the standard
output, and the files are as before. A request for help shows `helpText` and changes no files. In
any other case a listing is `Supplied` by the source, and the files are as before but for the one at
`options.output`, which holds the image of this listing (`SavedAt`) and is read back from there; the
standard output has the hexdump of it if that was asked for. -/
theorem run_all_or_nothing (allocator : Allocator) (standardInput : Bytes)
    (arguments : List Text) (files : FileSystem) :
    (∀ stage errors, FailsAt allocator standardInput arguments files stage errors →
      runIn allocator standardInput arguments files =
        (⟨stage.status, "", errors⟩, files)) ∧
    (Request.ofArguments arguments = .ok .help →
      runIn allocator standardInput arguments files = (⟨0, helpText, ""⟩, files)) ∧
    ∀ options, Request.ofArguments arguments = .ok (.compile options) →
      (¬ ∃ stage errors, FailsAt allocator standardInput arguments files stage errors) →
      ∃ markers source image location after,
        Listing.Markers.ofChars options.separator options.comment = .ok markers ∧
        Supplied standardInput files options.source (.ok source) ∧
        (compile allocator markers source options.size.toNat).outcome = .ok image ∧
        FileSystem.SavedAt files after options.output location image.bytes ∧
        after.read options.output = .ok image.bytes ∧
        runIn allocator standardInput arguments files =
          (⟨0, if options.hexdump then String.ofList (Hexdump.render image.bytes) else "", ""⟩,
            after) := by
  refine ⟨?_, ?_, ?_⟩
  · intro stage errors h
    exact h.runIn_eq
  · intro h
    rw [runIn, run, h]
    rfl
  · intro options hrequest hnone
    rcases failsAt_or_savedAt allocator standardInput hrequest files with hfails |
      ⟨markers, source, image, location, after, hmarkers, hsource, hcompile, hsaved, hrun⟩
    · exact absurd hfails hnone
    · exact ⟨markers, source, image, location, after, hmarkers, hsource, hcompile, hsaved,
        hsaved.read_eq, hrun⟩

end RomCompiler.CommandLine
