import RomCompiler.Bytes
import RomCompiler.Numeral

/-! # The bytes of a listing

A byte is written with one or more hexadecimal digits of either case, with or without a mark of the
base before them; leading zeros are free.
- **`Token.Fault`** — a token has the wrong form, or its digits stand for too large a number.
- **`Token.digits`** — a token without the mark of its base.
- **`Token.decodeBy`** — the byte of a token, with a given reading of digits.
- **`Token.decode`** — the byte of a token. -/

namespace RomCompiler.Listing.Token

/-- **Why a token is not a byte.** -/
inductive Fault where
  /-- The token is not made of hexadecimal digits after an optional mark. -/
  | malformed
  /-- The digits stand for a number above the largest byte. -/
  | tooLarge
  deriving DecidableEq, Repr

/-- What a message says about a token with this fault. -/
def Fault.reason : Fault → String
  | .malformed => "is not a byte of the form 0xHL"
  | .tooLarge => "doesn't fit in a byte"

/-- **The token without the mark of its base.** A mark is taken off once only. -/
def digits (token : Text) : Text := (Numeral.unprefixed? token).getD token

/-- **The byte that a token stands for when its digits are read by `read`.** Only a token that has
the form of a byte is read, so the only fault left is that its number is too large. -/
def decodeBy (read : Text → Except Numeral.Fault (BitVec 8)) (token : Text) : Except Fault UInt8 :=
  if (digits token).isEmpty || !(digits token).all Numeral.isHexDigit then .error .malformed
  else
    match read (digits token) with
    | .ok byte => .ok (UInt8.ofBitVec byte)
    | .error _ => .error .tooLarge

/-- `decode token`: the byte that a token stands for. -/
def decode (token : Text) : Except Fault UInt8 := decodeBy (Numeral.read 8 16) token

end RomCompiler.Listing.Token
