import RomCompiler.Text.Blank

/-! # Numerals

Numbers are read digit by digit into a word of a fixed width, where each multiplication by the base
and each addition of a digit is checked, and are written with the fewest digits.
- **`Numeral.digit?`** — the value of a character as a digit of a base up to sixteen.
- **`Numeral.accumulate`** — the checked reading of digits; the leftmost problem is reported, and at
  one character a bad digit before an overflow.
- **`Numeral.read`** — a whole numeral, which may open with a plus sign.
- **`decimal`**, **`hexadecimal`**, **`prefixedHex`** — the written forms of a number. -/

namespace RomCompiler

/-- `decimal n`: the decimal digits of a number. -/
def decimal (n : Nat) : String := String.ofList (Nat.toDigits 10 n)

/-- `hexadecimal n`: the hexadecimal digits of a number, in lower case. -/
def hexadecimal (n : Nat) : String := String.ofList (Nat.toDigits 16 n)

/-- `prefixedHex n`: a number in lower-case hexadecimal with the mark of its base. -/
def prefixedHex (n : Nat) : String := "0x" ++ hexadecimal n

namespace Numeral

/-- **Why a text is not the numeral of a word.** The last two reasons are those of `accumulate`. -/
inductive Fault where
  /-- There are no digits at all. -/
  | empty
  /-- A character is not a digit of the base. -/
  | invalidDigit
  /-- The digits so far stand for a number that the word cannot hold. -/
  | overflow
  deriving DecidableEq, Repr

/-- A fault in words. -/
def Fault.reason : Fault → String
  | .empty => "cannot parse integer from empty string"
  | .invalidDigit => "invalid digit found in string"
  | .overflow => "number too large to fit in target type"

/-- The value of a hexadecimal digit of either case, `0` to `15`. -/
def hexDigit? (c : Char) : Option Nat :=
  if '0' ≤ c ∧ c ≤ '9' then some (c.toNat - '0'.toNat)
  else if 'a' ≤ c ∧ c ≤ 'f' then some (c.toNat - 'a'.toNat + 10)
  else if 'A' ≤ c ∧ c ≤ 'F' then some (c.toNat - 'A'.toNat + 10)
  else none

/-- Whether a character is a hexadecimal digit, that is whether it has a `hexDigit?`. -/
def isHexDigit (c : Char) : Bool := (hexDigit? c).isSome

/-- `digit? base c`: the value of a character as a digit of `base`, which is at most sixteen. -/
def digit? (base : Nat) (c : Char) : Option Nat := (hexDigit? c).filter (· < base)

/-- **One step of the reading**: the word `acc` followed by one more digit, `acc * base + digit`,
unless the product or the sum does not fit in the word. -/
def push? {w : Nat} (base : Nat) (acc : BitVec w) (digit : Nat) : Option (BitVec w) :=
  let radix := BitVec.ofNat w base
  let unit := BitVec.ofNat w digit
  if acc.umulOverflow radix then none
  else if (acc * radix).uaddOverflow unit then none
  else some (acc * radix + unit)

/-- **Reads digits after those that gave `acc`.** Each character is first judged as a digit and then
added to the word by `push?`, so the leftmost problem is the one reported. -/
def accumulate {w : Nat} (base : Nat) (acc : BitVec w) : Text → Except Fault (BitVec w)
  | [] => .ok acc
  | c :: rest =>
    match digit? base c with
    | none => .error .invalidDigit
    | some digit =>
      match push? base acc digit with
      | none => .error .overflow
      | some next => accumulate base next rest

/-- A numeral without its plus sign. A sign with nothing after it, `+`, is kept: it is a bad digit.
-/
def unsigned : Text → Text
  | '+' :: c :: rest => c :: rest
  | text => text

/-- `read w base text`: the word that a numeral of the given base stands for. -/
def read (w base : Nat) (text : Text) : Except Fault (BitVec w) :=
  if text.isEmpty then .error .empty else accumulate base 0 (unsigned text)

/-- A numeral without the mark of base sixteen, `0x` or `0X`, where it has one. -/
def unprefixed? : Text → Option Text
  | '0' :: 'x' :: rest => some rest
  | '0' :: 'X' :: rest => some rest
  | _ => none

/-- `accumulate base acc [] = .ok acc`: nothing more to read leaves the word as it is. -/
@[simp] theorem accumulate_nil {w : Nat} (base : Nat) (acc : BitVec w) :
    accumulate base acc [] = .ok acc := rfl

/-- `accumulate base acc (c :: rest) = accumulate base next rest`: a digit that keeps the word in
range is followed by the rest of the reading. -/
theorem accumulate_cons_of_push {w base digit : Nat} {acc next : BitVec w} {c : Char}
    (hdigit : digit? base c = some digit) (hpush : push? base acc digit = some next)
    (rest : Text) : accumulate base acc (c :: rest) = accumulate base next rest := by
  simp [accumulate, hdigit, hpush]

end Numeral

end RomCompiler
