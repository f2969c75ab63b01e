/-! # Refusals of the operating system

An operation on files ends with a refusal when the system can't carry it out.
- **`Refusal`** — the reasons that come up with the operations on paths.
- **`Refusal.description`** — the text for one, with the number that the system gives it. -/

namespace RomCompiler

/-- **Why the system refused an operation on a file.** -/
inductive Refusal where
  /-- The path leads through a name that is not there. -/
  | notFound
  /-- The path leads on from something that is not a directory. -/
  | notDirectory
  /-- A directory is where a file is expected. -/
  | isDirectory
  /-- The path leads to a directory that is in use. -/
  | busy
  /-- A name in the path, or the whole path, is too long. -/
  | nameTooLong
  /-- The path has a character that no path can have. -/
  | invalidArgument
  /-- A path with a NUL was not even passed to the system. -/
  | nulByte
  /-- Any other reason, in the words of the system. -/
  | other (description : String)
  deriving DecidableEq, Repr

/-- **The text for a refusal**, with the number that the system has for it. -/
def Refusal.description : Refusal → String
  | .notFound => "No such file or directory (os error 2)"
  | .busy => "Device or resource busy (os error 16)"
  | .notDirectory => "Not a directory (os error 20)"
  | .isDirectory => "Is a directory (os error 21)"
  | .invalidArgument => "Invalid argument (os error 22)"
  | .nameTooLong => "File name too long (os error 36)"
  | .nulByte => "file name contained an unexpected NUL byte"
  | .other description => description

end RomCompiler
