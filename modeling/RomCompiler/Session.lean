import RomCompiler.FileSystem
import RomCompiler.Job

/-! # Sessions

A session is a sequence of changes to a file system, some by the compiler and some by others.
- **`Step`** — one change.
- **`Step.run`** — what a step leaves behind, with the answer of the compiler where it was asked. -/

namespace RomCompiler

/-- **One change of a file system.** -/
inductive Step where
  /-- A file with the given content comes to be at a path. -/
  | write (path : Text) (content : Bytes)
  /-- A directory comes to be at a path. -/
  | makeDirectory (path : Text)
  /-- What a path leads to goes away. -/
  | remove (path : Text)
  /-- The compiler does a job. -/
  | compile (job : Job)
  deriving DecidableEq, Repr

/-- `step.run allocator files`: the file system after a step, with the answer of the compiler if the
step asked for one. -/
def Step.run (allocator : Allocator) (step : Step) (files : FileSystem) :
    Option (Logged Job.Fault Image) × FileSystem :=
  match step with
  | .write path content => (none, files.write path content)
  | .makeDirectory path => (none, files.makeDirectory path)
  | .remove path => (none, files.remove path)
  | .compile job =>
    let (answer, after) := (job.run allocator : StateM FileSystem _).run files
    (some answer, after)

/-- **The file system after some steps**, one `Step.run` after the other. -/
def Session.run (allocator : Allocator) (steps : List Step) (files : FileSystem) : FileSystem :=
  steps.foldl (fun files step => (step.run allocator files).2) files

end RomCompiler
