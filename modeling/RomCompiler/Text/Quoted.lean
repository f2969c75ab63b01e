import RomCompiler.Text.Numbered
import RomCompiler.Text.Blank

/-! # Quoted texts

Messages show a piece of the input between quotes, with a backslash before what could be mistaken
for the end of the quotation and an escape for what cannot be seen.
- **`escape`** — how one character is written between given quotes.
- **`quoted`**, **`quotedChar`** — a text between double quotes, a character between single ones. -/

namespace RomCompiler.Text

/-- **A code point written by number**: its lower-case hexadecimal digits in braces, after a
backslash and `u`. -/
def byNumber (c : Char) : Text := ['\\', 'u', '\x7b'] ++ Nat.toDigits 16 c.toNat ++ ['\x7d']

/-- **A character as it is written between two `quote` characters.** -/
def escape (quote c : Char) : Text :=
  match c with
  | '\\' => ['\\', '\\']
  | '\t' => ['\\', 't']
  | '\n' => ['\\', 'n']
  | '\r' => ['\\', 'r']
  | '\x00' => ['\\', '0']
  | c => if c = quote then ['\\', c] else if isNumbered c then byNumber c else [c]

/-- `quoted text`: the text between double quotes, each character escaped as far as it needs. -/
def quoted (text : Text) : String := String.ofList ('"' :: (text.flatMap (escape '"') ++ ['"']))

/-- `quotedChar c`: the character between single quotes, escaped if it needs it. -/
def quotedChar (c : Char) : String := String.ofList ('\'' :: (escape '\'' c ++ ['\'']))

end RomCompiler.Text
