import RomCompiler.Proofs.CommandLine.Stages
import RomCompiler.Proofs.Listing.Trailing

/-! # Where a listing comes from

A run reads its listing from a file or from the standard input, and drops the blanks at its end. The
user is told the same as of the job with the whole listing, and the files are the same after it.
* **`Options.job`**, **`answerTo`** — the job that a run is to do, and what the user is to be told
  of it.
* **`runIn_eq_answerTo`** — a run does the job with the listing it has read.
* **`answerTo_trimEnd`** — a job does not depend on blanks at the end of its listing.
* **`runIn_eq_of_source`** — runs on a file and on the standard input with the same text. -/

namespace RomCompiler

variable {allocator : Allocator} {markers : Listing.Markers} {source other : Option Text}
  {size : Nat} {files : FileSystem}

/-- A listing has the image that it has without the blanks at its end, or the same fault. -/
theorem outcome_compile_trimEnd (allocator : Allocator) (markers : Listing.Markers) (text : Text)
    (size : Nat) :
    (compile allocator markers (some (Text.trimEnd text)) size).outcome =
      (compile allocator markers (some text) size).outcome := by
  have hsame : (Compilation.code markers (some (Text.trimEnd text))).outcome =
      (Compilation.code markers (some text)).outcome :=
    Listing.outcome_parse_trimEnd markers text
  rcases hcode : (Compilation.code markers (some text)).outcome with fault | code
  · rw [hcode] at hsame
    rw [outcome_compile_of_listing_error hsame, outcome_compile_of_listing_error hcode]
  · rw [hcode] at hsame
    rw [outcome_compile_of_listing_ok hsame, outcome_compile_of_listing_ok hcode]

/-- Listings with the same image are produced alike, but for the records. -/
theorem run_produce_congr
    (h : (compile allocator markers source size).outcome =
      (compile allocator markers other size).outcome) (path : Text) (files : FileSystem) :
    ∃ log log' outcome after,
      (produce allocator markers source size path : StateM FileSystem _).run files =
        (⟨log, outcome⟩, after) ∧
      (produce allocator markers other size path : StateM FileSystem _).run files =
        (⟨log', outcome⟩, after) := by
  rcases hother : (compile allocator markers other size).outcome with fault | image
  · rw [hother] at h
    exact ⟨_, _, _, files, run_produce_of_error h path files,
      run_produce_of_error hother path files⟩
  · rw [hother] at h
    -- the save is told of the image only
    rcases hsave : (save image path : StateM FileSystem _).run files with ⟨saved, after⟩
    exact ⟨_, _, _, after, run_produce_of_ok h hsave, run_produce_of_ok hother hsave⟩

namespace CommandLine

/-- `options.job source`: the job that some options ask for, with the listing at hand. -/
def Options.job (options : Options) (source : Option Text) : Job where
  path := options.output
  source := source
  size := options.size.toNat
  separator := options.separator
  comment := options.comment

/-- **What the user sees after a job**: nothing or the hexdump of the image, or the fault. The
reason why an image was not saved, `fault.cause.reason`, is told twice. -/
def Outcome.ofJob (hexdump : Bool) : Except Job.Fault Image → Outcome
  | .ok image => ⟨0, if hexdump then String.ofList (Hexdump.render image.bytes) else "", ""⟩
  | .error (.saving fault) =>
    ⟨1, "", "error: " ++ (fault.message ++ ": " ++ fault.cause.reason) ++ "\n"⟩
  | .error fault => ⟨1, "", "error: " ++ fault.message ++ "\n"⟩

/-- **The answer to a job**: `answerTo allocator hexdump job files` is what the user is to be told
of it, and the files after it. -/
def answerTo (allocator : Allocator) (hexdump : Bool) (job : Job) (files : FileSystem) :
    Outcome × FileSystem :=
  let answer := (job.run allocator : StateM FileSystem _).run files
  (.ofJob hexdump answer.1.outcome, answer.2)

variable {standardInput : Bytes} {arguments : List Text} {options : Options}

/-- **A run does the job with the listing that it has read.** -/
theorem runIn_eq_answerTo (allocator : Allocator)
    (hrequest : Request.ofArguments arguments = .ok (.compile options))
    (hsource : sourceIn standardInput options.source files = .ok source) :
    runIn allocator standardInput arguments files =
      answerTo allocator options.hexdump (options.job source) files := by
  rcases hmarkers : Listing.Markers.ofChars options.separator options.comment with fault | markers
  · have hjob : Listing.Markers.ofChars (options.job source).separator
        (options.job source).comment = .error fault := hmarkers
    rw [runIn_of_error hrequest (run_execute_of_markers_error hmarkers), Failure.told,
      ← Failure.message_eq_words, answerTo, Job.run_of_markers_error hjob]
    rfl
  · have hjob := @Job.run_of_markers_ok markers (options.job source) hmarkers allocator files
    rcases hproduce : (produce allocator markers source options.size.toNat options.output :
      StateM FileSystem _).run files with ⟨⟨log, fault | image⟩, after⟩
    · have hexecute := run_execute_of_source_ok hmarkers hsource hproduce
      rw [runIn_of_error hrequest hexecute, Failure.told, ← Failure.message_eq_words, answerTo,
        hjob.trans hproduce]
      cases fault <;> rfl
    · have hexecute := run_execute_of_source_ok hmarkers hsource hproduce
      rw [runIn_of_ok hrequest hexecute, answerTo, hjob.trans hproduce]
      rfl

/-- **The answer to a job does not depend on blanks at the end of its listing.** -/
theorem answerTo_trimEnd (allocator : Allocator) (hexdump : Bool) (options : Options) (text : Text)
    (files : FileSystem) :
    answerTo allocator hexdump (options.job (some (Text.trimEnd text))) files =
      answerTo allocator hexdump (options.job (some text)) files := by
  rcases hmarkers : Listing.Markers.ofChars options.separator options.comment with fault | markers
  · -- without markers the listing is not looked at
    have hjob : ∀ source, ((options.job source).run allocator : StateM FileSystem _).run files =
        (.fail (.markers fault), files) := fun _ => Job.run_of_markers_error hmarkers
    rw [answerTo, answerTo, hjob, hjob]
  · have hjob : ∀ source, ((options.job source).run allocator : StateM FileSystem _).run files =
        (produce allocator markers source options.size.toNat options.output :
          StateM FileSystem _).run files := fun _ => Job.run_of_markers_ok hmarkers allocator files
    obtain ⟨log, log', outcome, after, htrimmed, hwhole⟩ := run_produce_congr
      (outcome_compile_trimEnd allocator markers text options.size.toNat) options.output files
    rw [answerTo, answerTo, hjob, hjob, htrimmed, hwhole]

/-- **A run on a file and one on the standard input that has the same text leave the same on the
screen and the same files**, and so does the job with the whole text, blanks at its end included:
all of them give `answerTo allocator options.hexdump (options.job (some text)) files`. No listing
depends on these blanks, since `parse` gives the same for `Text.trimEnd text` and for `text`. -/
theorem runIn_eq_of_source (allocator : Allocator) {name text : Text}
    {fileArguments inputArguments : List Text}
    (hfile : Request.ofArguments fileArguments =
      .ok (.compile { options with source := some name }))
    (hinput : Request.ofArguments inputArguments =
      .ok (.compile { options with source := some standardInputName }))
    (hname : name ≠ standardInputName) (hread : files.read name = .ok (Text.toUtf8 text))
    (otherInput : Bytes) :
    runIn allocator otherInput fileArguments files =
      answerTo allocator options.hexdump (options.job (some text)) files ∧
    runIn allocator (Text.toUtf8 text) inputArguments files =
      answerTo allocator options.hexdump (options.job (some text)) files ∧
    ∀ markers, (Listing.parse markers (Text.trimEnd text)).outcome =
      (Listing.parse markers text).outcome := by
  have htrim := answerTo_trimEnd allocator options.hexdump options text files
  have hfileBytes : BytesOf otherInput files name (.ok (Text.toUtf8 text)) := by
    rw [← hread]
    exact .file hname
  refine ⟨?_, ?_, fun markers => Listing.outcome_parse_trimEnd markers text⟩
  · exact (runIn_eq_answerTo allocator hfile hfileBytes.sourceIn_eq_trimEnd).trans htrim
  · exact (runIn_eq_answerTo allocator hinput
      (BytesOf.standardInput.sourceIn_eq_trimEnd)).trans htrim

/-- A listing with a fault, with a line that is blank after it, in a file and as the standard
input. -/
theorem runIn_eq_of_source_blank_line :
    let text : Text := ['1', '\r', '\n', 'z', ' ', '\r', '\n', ' ', '\n']
    let files : FileSystem :=
      ⟨⟨[([['p']], .file (Text.toUtf8 text))]⟩, [], [], .preferring []⟩
    let outcome : Outcome :=
      ⟨1, "", "error: syntax error at line 2: \"z\" is not a byte of the form 0xHL\n"⟩
    runIn .addressSpace [] [['-', 'i'], ['p'], ['-', 's'], ['8']] files = (outcome, files) ∧
    runIn .addressSpace (Text.toUtf8 text) [['-', 's', '8'], ['-', 'i', '-']] files =
      (outcome, files) := by
  intro text files outcome
  have hfile : Request.ofArguments [['-', 'i'], ['p'], ['-', 's'], ['8']] =
      .ok (.compile ⟨some ['p'], 8, defaultOutput, ',', ';', false⟩) := by
    rfl
  have hinput : Request.ofArguments [['-', 's', '8'], ['-', 'i', '-']] =
      .ok (.compile ⟨some standardInputName, 8, defaultOutput, ',', ';', false⟩) := by
    rfl
  have hread : files.read ['p'] = .ok (Text.toUtf8 text) := by
    rfl
  obtain ⟨hrun, hrun', -⟩ := @runIn_eq_of_source files
    ⟨none, 8, defaultOutput, ',', ';', false⟩ .addressSpace _ _ _ _ hfile hinput (by decide)
    hread []
  have hanswer : answerTo .addressSpace false
      (Options.job ⟨none, 8, defaultOutput, ',', ';', false⟩ (some text)) files =
        (outcome, files) := by
    rfl
  exact ⟨hrun.trans hanswer, hrun'.trans hanswer⟩

end CommandLine

end RomCompiler
