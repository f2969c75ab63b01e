import RomCompiler.Numeral

/-! # Sizes

The size of an image is given in decimal, or in hexadecimal after a mark of that base, and is a
64-bit word.
- **`Size.parse`** — the size that a text stands for.
- **`Size.Fault`** — a text that is not a size, with the reason. -/

namespace RomCompiler.Size

/-- **A text that is not a size.** -/
structure Fault where
  /-- The text. -/
  text : Text
  /-- Why it is not the numeral of a 64-bit word. -/
  reason : Numeral.Fault
  deriving DecidableEq, Repr

/-- **A fault in words**: the text that is not a size, and `fault.reason.reason`. -/
def Fault.message (fault : Fault) : String :=
  "invalid size '" ++ String.ofList fault.text ++ "': " ++ fault.reason.reason

/-- `parse text`: the size that a text stands for. -/
def parse (text : Text) : Except Fault (BitVec 64) :=
  let numeral :=
    match Numeral.unprefixed? text with
    | some digits => Numeral.read 64 16 digits
    | none => Numeral.read 64 10 text
  numeral.mapError fun reason => ⟨text, reason⟩

end RomCompiler.Size
