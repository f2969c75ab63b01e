import RomCompiler.Numeral
import RomCompiler.Text.Quoted

/-! # The markers of a listing

Two characters structure a line of a listing: one separates bytes, one opens a comment. Neither may
be a blank or a character that a byte is written with, and they differ, so that every character of
a line has one role.
- **`isReserved`** — the characters that can't be markers.
- **`Markers`** — a separator and a comment marker that are free and distinct.
- **`Markers.ofChars`** — the markers with given characters, or the reason why there are none. -/

namespace RomCompiler.Listing

/-- **The characters that have a meaning of their own in a listing**: blanks, hexadecimal digits and
the letter of the mark before them, `x` or `X`. -/
def isReserved (c : Char) : Bool := Text.isBlank c || Numeral.isHexDigit c || c == 'x' || c == 'X'

/-- **The characters that structure the lines of a listing.** -/
structure Markers where
  /-- The character between two bytes. -/
  separator : Char
  /-- The character that opens a comment. -/
  comment : Char
  /-- The separator has no other meaning. -/
  separator_free : isReserved separator = false
  /-- The comment marker has no other meaning. -/
  comment_free : isReserved comment = false
  /-- The two markers are told apart. -/
  separator_ne_comment : separator ≠ comment
  deriving DecidableEq, Repr

namespace Markers

/-- **Why two characters can't be the markers of a listing**: one of them `isReserved`, or they are
the same. -/
inductive Fault where
  /-- The character has a meaning of its own. -/
  | reserved (c : Char)
  /-- The character would be both markers. -/
  | same (c : Char)
  deriving DecidableEq, Repr

/-- A fault in words. -/
def Fault.message : Fault → String
  | .reserved c => Text.quotedChar c ++ " can't be used as a separator or comment marker"
  | .same c => "separator and comment marker are both " ++ Text.quotedChar c

/-- The separator that is used unless another one is chosen. -/
def defaultSeparator : Char := ','

/-- The comment marker that is used unless another one is chosen. -/
def defaultComment : Char := ';'

/-- **The markers with the given characters.** The separator is judged before the comment marker,
and each one alone before the two together. -/
def ofChars (separator comment : Char) : Except Fault Markers :=
  if hs : isReserved separator then .error (.reserved separator)
  else if hc : isReserved comment then .error (.reserved comment)
  else if h : separator = comment then .error (.same separator)
  else .ok ⟨separator, comment, by simpa using hs, by simpa using hc, h⟩

instance : Inhabited Markers where
  default := ⟨defaultSeparator, defaultComment, by decide, by decide, by decide⟩

/-- `ofChars markers.separator markers.comment = .ok markers`: markers are found again from their
characters. -/
@[simp] theorem ofChars_eq_self (markers : Markers) :
    ofChars markers.separator markers.comment = .ok markers := by
  simp [ofChars, markers.separator_free, markers.comment_free, markers.separator_ne_comment]

end Markers

end RomCompiler.Listing
