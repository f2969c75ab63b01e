import RomCompiler.Numeral

/-! # The log of a compilation

Every stage reports what it is about to do as a record, and the records of a run stay in order
whether the run ends well or with a fault.
- **`Record`** — what a record says, with its level and its text.
- **`Logged`** — a result together with the records written on the way to it; a monad in which a
  fault ends the run and keeps the records before it. -/

namespace RomCompiler

/-- How important a record is. -/
inductive Level where
  /-- Each step of the work. -/
  | trace
  /-- What a stage has done or is going to do. -/
  | debug
  /-- What changes outside of the program. -/
  | info
  /-- What the user may not have meant. -/
  | warn
  deriving DecidableEq, Repr

/-- **The name of a level**, as `Record.render` writes it. -/
def Level.name : Level → String
  | .trace => "TRACE"
  | .debug => "DEBUG"
  | .info => "INFO"
  | .warn => "WARN"

/-- **What a record of the log says.** -/
inductive Record where
  /-- Line `number` of `total` is going to be decoded; `text` is the line without blanks at its
  ends. -/
  | compilingLine (number total : Nat) (text : Text)
  /-- The whole listing was decoded into `count` bytes. -/
  | parsed (count : Nat)
  /-- An image of `size` bytes is going to be built around `codeLength` bytes of code. -/
  | building (size codeLength : Nat)
  /-- The code reaches into the word from `first` up to `last`, which will be overwritten. -/
  | vectorCovered (first last : Nat)
  /-- An image is going to be saved under `path`. -/
  | saving (path : Text)
  /-- `length` bytes are going to be written to the file `path`. -/
  | writing (length : Nat) (path : Text)
  deriving DecidableEq, Repr

namespace Record

/-- `level record`: how important the record is. -/
def level : Record → Level
  | .compilingLine .. => .trace
  | .parsed .. => .debug
  | .building .. => .debug
  | .vectorCovered .. => .warn
  | .saving .. => .info
  | .writing .. => .debug

/-- `lineNumber number total`: a line number, with blanks before it up to the width of the total. -/
def lineNumber (number total : Nat) : String :=
  String.ofList ((Nat.toDigits 10 number).leftpad (Nat.toDigits 10 total).length ' ')

/-- **The text of a record**, without its level. -/
def message : Record → String
  | .compilingLine number total text =>
    "compiling line " ++ lineNumber number total ++ ": " ++ String.ofList text
  | .parsed count => "parsed " ++ decimal count ++ " bytes"
  | .building size codeLength =>
    "building " ++ prefixedHex size ++ " byte ROM from " ++ prefixedHex codeLength ++
      " bytes of code"
  | .vectorCovered first last =>
    "code runs into the reset vector at " ++ prefixedHex first ++ ".." ++ prefixedHex last ++
      ", it will be overwritten"
  | .saving path =>
    "saving byte code to ROM inside the " ++ String.ofList path ++ " file"
  | .writing length path =>
    "writing " ++ prefixedHex length ++ " bytes to " ++ String.ofList path

/-- **A record as one line**: `record.level.name`, a blank and `record.message`. -/
def render (record : Record) : String := record.level.name ++ " " ++ record.message

end Record

/-- **The outcome of a run that may end with a fault, with the records it wrote.** -/
structure Logged (ε α : Type) where
  /-- The records, oldest first. -/
  log : List Record
  /-- What the run ended with. -/
  outcome : Except ε α

namespace Logged

variable {ε α β : Type}

/-- `note record`: a run that only writes one record. -/
def note (record : Record) : Logged ε Unit := ⟨[record], .ok ()⟩

/-- `fail fault`: a run that ends at once with a fault. -/
def fail (fault : ε) : Logged ε α := ⟨[], .error fault⟩

/-- **One run after another.** A fault of `first` ends both, and `next` is not run. -/
def andThen (first : Logged ε α) (next : α → Logged ε β) : Logged ε β :=
  match first.outcome with
  | .error fault => ⟨first.log, .error fault⟩
  | .ok value =>
    let second := next value
    ⟨first.log ++ second.log, second.outcome⟩

instance : Monad (Logged ε) where
  pure value := ⟨[], .ok value⟩
  bind := andThen
  map f run := ⟨run.log, run.outcome.map f⟩

/-- `run.mapFault f`: the same run with its fault read as a fault of a wider kind. -/
def mapFault {ε' : Type} (f : ε → ε') (run : Logged ε α) : Logged ε' α :=
  ⟨run.log, run.outcome.mapError f⟩

/-- `(pure value : Logged ε α) = ⟨[], .ok value⟩`: returning a value writes nothing. -/
theorem pure_eq (value : α) : (pure value : Logged ε α) = ⟨[], .ok value⟩ := rfl

/-- `f <$> run = ⟨run.log, run.outcome.map f⟩`: changing the value of a run writes nothing. -/
theorem map_eq (f : α → β) (run : Logged ε α) :
    f <$> run = ⟨run.log, run.outcome.map f⟩ := rfl

/-- After a fault nothing runs any more. -/
@[simp] theorem mk_error_bind (log : List Record) (fault : ε) (next : α → Logged ε β) :
    (⟨log, .error fault⟩ : Logged ε α) >>= next = ⟨log, .error fault⟩ := rfl

/-- After a value the next run goes on, and its records come after those of the first. -/
@[simp] theorem mk_ok_bind (log : List Record) (value : α) (next : α → Logged ε β) :
    (⟨log, .ok value⟩ : Logged ε α) >>= next =
      ⟨log ++ (next value).log, (next value).outcome⟩ := rfl

instance : LawfulMonad (Logged ε) := LawfulMonad.mk' (Logged ε)
  (by rintro _ ⟨log, _ | _⟩ <;> rfl)
  (by intro _ _ _ _; simp [pure_eq])
  (by
    rintro _ _ _ ⟨log, _ | value⟩ f g
    · rfl
    · rcases h : f value with ⟨logNext, _ | _⟩ <;> simp [h])
  (by intro _ _ _ _; rfl)
  (by
    rintro _ _ ⟨log, _ | _⟩ ⟨logNext, _ | _⟩ <;> rfl)
  (by
    rintro _ _ ⟨log, _ | _⟩ ⟨logNext, _ | _⟩ <;> rfl)
  (by
    rintro _ _ _ ⟨log, _ | _⟩
    · rfl
    · simp [pure_eq, map_eq, Except.map])

end Logged

end RomCompiler
