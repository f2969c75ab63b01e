import RomCompiler.FileSystem.Access
import RomCompiler.FileSystem.Path
import RomCompiler.Image.Build
import RomCompiler.Text.Quoted

/-! # Saving an image

An image is first written to a temporary file beside its path, which then takes the name: the path
has the whole image or is left as it was.
- **`save`** — the steps, with their records; the temporary file goes away again if one fails.
- **`Save.Fault`** — the path, and the step that was refused. -/

namespace RomCompiler

namespace Save

/-- **The step of a save that was refused**: making the temporary file, or `persist`. -/
inductive Cause where
  /-- The temporary file was not made. -/
  | temporary (failure : NotCreated)
  /-- The image was not written, or the temporary file did not get the name of its path. -/
  | final (refusal : Refusal)
  deriving DecidableEq, Repr

/-- **The reason in words.** A temporary file is shown with its path, since the user did not choose
it. -/
def Cause.reason : Cause → String
  | .temporary failure => failure.refusal.description ++ " at path " ++ Text.quoted failure.path
  | .final refusal => refusal.description

/-- **A save that was refused.** -/
structure Fault where
  /-- The path of the image, as it was given. -/
  path : Text
  /-- What was refused. -/
  cause : Cause
  deriving DecidableEq, Repr

/-- **A fault in words**: the path as it was given, and `fault.cause.reason`. -/
def Fault.message (fault : Fault) : String :=
  String.ofList fault.path ++ ": " ++ fault.cause.reason

variable {m : Type → Type} [Monad m] [FileAccess m]

/-- **Fills a temporary file and gives it its path**; if either is refused, removes it. -/
def persist (temporary : FileAccess.Temporary m) (content : Bytes) (path : Text) :
    m (Except Refusal Unit) := do
  let placed ←
    match ← FileAccess.fill temporary content with
    | .ok () => FileAccess.rename temporary path
    | .error refusal => pure (.error refusal)
  match placed with
  | .ok () => return .ok ()
  | .error refusal =>
    FileAccess.discard temporary
    return .error refusal

end Save

/-- `save image path`: saves an image under a path. -/
def save {m : Type → Type} [Monad m] [FileAccess m] (image : Image) (path : Text) :
    m (Logged Save.Fault Unit) := do
  match ← FileAccess.createTemporary (Path.directory path) with
  | .error failure => return ⟨[.saving path], .error ⟨path, .temporary failure⟩⟩
  | .ok temporary =>
    let placed ← Save.persist temporary image.bytes path
    return ⟨[.saving path, .writing image.size (FileAccess.path temporary)],
      placed.mapError fun refusal => ⟨path, .final refusal⟩⟩

end RomCompiler
