import RomCompiler.CommandLine.Parse
import RomCompiler.Hexdump
import RomCompiler.Job
import RomCompiler.Text.Utf8

/-! # Running the program

The program reads its arguments, the listing, compiles it, saves the image and shows it if that was
asked for. The first stage that fails ends the run and decides what the user is told.
- **`Outcome`** — what a run leaves on the screen, and its status.
- **`Options.execute`** — the stages of a compilation.
- **`run`** — the program, in any monad that has the operations on files. -/

namespace RomCompiler.CommandLine

/-- **What the user sees of a run.** -/
structure Outcome where
  /-- Zero for success, one for a compilation that failed, two for wrong arguments. -/
  status : Nat
  /-- The text on the standard output. -/
  output : String
  /-- The text on the standard error output. -/
  errors : String
  deriving DecidableEq, Repr

/-- The description of the command line. -/
def helpText : String :=
  "Compiles hex byte code into a 6502 ROM image

Usage: makerom [OPTIONS] --size <SIZE>

Options:
  -i, --source <SOURCE>    Byte code to compile, \"-\" for stdin (defaults to no source)
  -s, --size <SIZE>        Size of the ROM file, usually a power of 2; decimal or 0x-prefixed hex
  -o, --output <OUTPUT>    File name to output to [default: rom.bin]
      --sep <SEP>          Separator between two bytes [default: ,]
      --comment <COMMENT>  Marker starting a comment that runs to the end of the line [default: ;]
      --hexdump            Print a hexdump of the ROM once it's saved
  -h, --help               Print help
"

/-- The source that stands for the standard input: `-`. -/
def standardInputName : Text := ['-']

/-- **Why a listing was not read.** Its file was refused, or its bytes are not those of a text, as
`Text.ofUtf8?` judges them. -/
inductive SourceFault where
  /-- The system refused to read it. -/
  | refused (refusal : Refusal)
  /-- Its bytes are not a text. -/
  | notText
  deriving DecidableEq, Repr

/-- The reason why a listing was not read, in words. -/
def SourceFault.reason : SourceFault → String
  | .refused refusal => refusal.description
  | .notText => "stream did not contain valid UTF-8"

/-- **Why a compilation failed**: a `SourceFault`, or a `Job.Fault`. -/
inductive Failure where
  /-- The listing was not read. -/
  | source (fault : SourceFault)
  /-- The job was not done. -/
  | job (fault : Job.Fault)
  deriving DecidableEq, Repr

/-- **A failure in words.** When a save fails the message ends with `fault.cause.reason` once more,
as the cause of the whole. -/
def Failure.message : Failure → String
  | .source fault => "can't read source: " ++ fault.reason
  | .job (.saving fault) => fault.message ++ ": " ++ fault.cause.reason
  | .job fault => fault.message

/-- **The listing that some bytes hold**: the text of `Text.ofUtf8?`, without the blanks at its end.
-/
def listingOf (bytes : Bytes) : Except SourceFault Text :=
  match Text.ofUtf8? bytes with
  | some text => .ok (Text.trimEnd text)
  | none => .error .notText

variable {m : Type → Type} [Monad m] [FileAccess m]

/-- The bytes of the source with the given name: those of the standard input for
`standardInputName`, and otherwise those of the file. -/
def readBytes (standardInput : m Bytes) (name : Text) : m (Except Refusal Bytes) :=
  if name = standardInputName then .ok <$> standardInput else FileAccess.read name

/-- **The listing of a source**, as `listingOf` reads it from the bytes; there is none without a
source. -/
def readSource (standardInput : m Bytes) (source : Option Text) :
    m (Except SourceFault (Option Text)) := do
  match source with
  | none => return .ok none
  | some name =>
    match ← readBytes standardInput name with
    | .error refusal => return .error (.refused refusal)
    | .ok bytes => return some <$> listingOf bytes

/-- `options.execute allocator standardInput`: the stages of a compilation after the arguments are
read, up to the first that fails. -/
def Options.execute (allocator : Allocator) (standardInput : m Bytes) (options : Options) :
    m (Except Failure Image) := do
  match Listing.Markers.ofChars options.separator options.comment with
  | .error fault => return .error (.job (.markers fault))
  | .ok markers =>
    match ← readSource standardInput options.source with
    | .error fault => return .error (.source fault)
    | .ok source =>
      let produced ← produce allocator markers source options.size.toNat options.output
      return produced.outcome.mapError .job

/-- What the user sees after a request was met: status `0`, and `output`. -/
def Outcome.success (output : String) : Outcome := ⟨0, output, ""⟩

/-- What the user sees after wrong arguments: status `2`, and `fault.report`. -/
def Outcome.misuse (fault : UsageFault) : Outcome := ⟨2, "", fault.report⟩

/-- What the user sees after a compilation that failed: status `1`, and `failure.message`. -/
def Outcome.failure (failure : Failure) : Outcome :=
  ⟨1, "", "error: " ++ failure.message ++ "\n"⟩

/-- `run allocator standardInput arguments`: runs the program with the given arguments. -/
def run (allocator : Allocator) (standardInput : m Bytes) (arguments : List Text) : m Outcome := do
  match Request.ofArguments arguments with
  | .error fault => return .misuse fault
  | .ok .help => return .success helpText
  | .ok (.compile options) =>
    match ← options.execute allocator standardInput with
    | .error failure => return .failure failure
    | .ok image =>
      return .success (if options.hexdump then String.ofList (Hexdump.render image.bytes) else "")

end RomCompiler.CommandLine
