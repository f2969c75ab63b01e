import RomCompiler.Bytes
import RomCompiler.FileSystem.Refusal
import RomCompiler.Text.Blank

/-! # Access to files

An image reaches its file in steps that the system carries out one by one: a temporary file is made,
filled and renamed, or else removed again.
- **`FileAccess`** — the operations on files that the program needs, in any monad that has them. -/

namespace RomCompiler

/-- A temporary file that could not be made. -/
structure NotCreated where
  /-- The path that it would have had. -/
  path : Text
  /-- Why it was not made. -/
  refusal : Refusal
  deriving DecidableEq, Repr

/-- The operations on files that the program needs. -/
class FileAccess (m : Type → Type) where
  /-- A temporary file, as the program holds on to it. -/
  Temporary : Type
  /-- The path of a temporary file, as messages show it. -/
  path : Temporary → Text
  /-- Makes an empty file with a new name in the directory with the given path. -/
  createTemporary : (directory : Text) → m (Except NotCreated Temporary)
  /-- Puts the content into a temporary file. -/
  fill : (temporary : Temporary) → (content : Bytes) → m (Except Refusal Unit)
  /-- Gives a temporary file another path, in place of a file that is there. -/
  rename : (temporary : Temporary) → (path : Text) → m (Except Refusal Unit)
  /-- Removes a temporary file. -/
  discard : (temporary : Temporary) → m Unit
  /-- The content of the file with the given path. -/
  read : (path : Text) → m (Except Refusal Bytes)

end RomCompiler
