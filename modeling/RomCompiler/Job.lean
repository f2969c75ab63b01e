import RomCompiler.Compilation
import RomCompiler.Save

/-! # Jobs

A job is all that one run of the compiler is told: the listing and its markers, the size of the
image and the path to save it under.
- **`produce`** — compiles a listing and saves its image.
- **`Job.run`** — the same for a job, whose markers are judged first. -/

namespace RomCompiler

/-- **What one run of the compiler is told.** Whether the characters can be markers is left to
`Listing.Markers.ofChars`. -/
structure Job where
  /-- The path of the image. -/
  path : Text
  /-- The listing, if there is one. -/
  source : Option Text
  /-- The size of the image. -/
  size : Nat
  /-- The character between two bytes. -/
  separator : Char
  /-- The character that opens a comment. -/
  comment : Char
  deriving DecidableEq, Repr

/-- Why a job was not done. -/
inductive Job.Fault where
  /-- The characters can't be markers. -/
  | markers (fault : Listing.Markers.Fault)
  /-- The listing has no image. -/
  | compilation (fault : Compilation.Fault)
  /-- The image was not saved. -/
  | saving (fault : Save.Fault)
  deriving DecidableEq, Repr

/-- A fault in words. -/
def Job.Fault.message : Job.Fault → String
  | .markers fault => fault.message
  | .compilation fault => fault.message
  | .saving fault => fault.message

variable {m : Type → Type} [Monad m] [FileAccess m]

/-- `produce allocator markers source size path`: compiles a listing and saves the image under a
path. -/
def produce (allocator : Allocator) (markers : Listing.Markers) (source : Option Text)
    (size : Nat) (path : Text) : m (Logged Job.Fault Image) := do
  let compiled := (compile allocator markers source size).mapFault Job.Fault.compilation
  match compiled.outcome with
  | .error fault => return ⟨compiled.log, .error fault⟩
  | .ok image =>
    let saved ← save image path
    return do
      let image ← compiled
      saved.mapFault Job.Fault.saving
      return image

/-- `job.run allocator`: does a job. -/
def Job.run (allocator : Allocator) (job : Job) : m (Logged Job.Fault Image) :=
  match Listing.Markers.ofChars job.separator job.comment with
  | .error fault => return .fail (.markers fault)
  | .ok markers => produce allocator markers job.source job.size job.path

end RomCompiler
