import RomCompiler.CommandLine.Run

/-! # The program

The command line on the files, the standard input and the standard outputs of the process.
- **`Refusal.ofError`** — the reason to refuse that an error of the system stands for.
- **`attempt`** — an action on files whose errors are refusals.
- **`main`** — runs the command line and ends with its status. -/

namespace RomCompiler

/-- The number of an error, which some operations of the system give with its sign changed. -/
def errorNumber (code : UInt32) : Nat := min code.toNat (0 - code).toNat

/-- `Refusal.ofError error`: the reason that an error of the system stands for. -/
def Refusal.ofError (error : IO.Error) : Refusal :=
  match error with
  | .noFileOrDirectory .. => .notFound
  | .resourceBusy .. => .busy
  | .inappropriateType _ code _ => if errorNumber code = 20 then .notDirectory else .isDirectory
  | .invalidArgument _ code _ => if errorNumber code = 36 then .nameTooLong else .invalidArgument
  | _ => .other (toString error)

/-- `attempt action`: an action whose errors are refusals. -/
def attempt {α : Type} (action : IO α) : IO (Except Refusal α) := do
  match ← action.toBaseIO with
  | .ok value => return .ok value
  | .error error => return .error (.ofError error)

/-- The characters of a suffix. -/
def suffixCharacters : List Char :=
  "0123456789abcdefghijklmnopqrstuvwxyzABCDEFGHIJKLMNOPQRSTUVWXYZ".toList

/-- A suffix of so many characters. -/
def randomSuffix : Nat → IO (List Char)
  | 0 => return []
  | n + 1 => do
    let i ← IO.rand 0 (suffixCharacters.length - 1)
    return suffixCharacters.getD i '0' :: (← randomSuffix n)

/-- Makes a file in a directory, under a name with `randomSuffix 6`, which is drawn again, at most
so many times, when it is taken. -/
def createIn (directory : Text) : Nat → IO (Except NotCreated Text)
  | 0 => return .error ⟨directory, .other "no name is free"⟩
  | n + 1 => do
    let name := ".tmp".toList ++ (← randomSuffix 6)
    let path := Path.join directory name
    if '\x00' ∈ path then return .error ⟨path, .nulByte⟩
    match ← (IO.FS.Handle.mk (String.ofList path) .writeNew).toBaseIO with
    | .ok _ => return .ok path
    | .error (.alreadyExists ..) => createIn directory n
    | .error error => return .error ⟨path, .ofError error⟩

instance : FileAccess IO where
  Temporary := Text
  path temporary := temporary
  createTemporary directory := do
    let here := (← IO.currentDir).toString.toList
    createIn (Path.join here directory) 100
  fill temporary content :=
    attempt (IO.FS.writeBinFile (String.ofList temporary) ⟨content.toArray⟩)
  rename temporary path :=
    if '\x00' ∈ path then return .error .invalidArgument
    else attempt (IO.FS.rename (String.ofList temporary) (String.ofList path))
  discard temporary := do
    let _ ← attempt (IO.FS.removeFile (String.ofList temporary))
  read path :=
    if '\x00' ∈ path then return .error .nulByte
    else attempt do
      let content ← IO.FS.readBinFile (String.ofList path)
      return content.data.toList

/-- All of the standard input. -/
def readStandardInput : IO Bytes := do
  let content ← (← IO.getStdin).readBinToEnd
  return content.data.toList

end RomCompiler

/-- Runs the program with the arguments of the process. -/
def main (arguments : List String) : IO UInt32 := do
  let outcome ← RomCompiler.CommandLine.run RomCompiler.Allocator.addressSpace
    RomCompiler.readStandardInput (arguments.map String.toList)
  (← IO.getStdout).putStr outcome.output
  (← IO.getStderr).putStr outcome.errors
  return outcome.status.toUInt32
