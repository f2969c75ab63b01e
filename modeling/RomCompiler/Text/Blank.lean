import RomCompiler.Text.CodeRange

/-! # Texts and their blanks

A text is the list of its characters. The blanks are the characters with the Unicode property
`White_Space`; trimming removes them from the ends of a text.
- **`isBlank`** — the class of blanks.
- **`dropEndWhile`** — a list without its longest end on which a predicate holds.
- **`trimStart`**, **`trimEnd`**, **`trim`** — a text without its leading blanks, without its
  trailing ones, and without both. -/

namespace RomCompiler

/-- A text: the list of its characters, in reading order. -/
abbrev Text := List Char

/-- `dropEndWhile p list`: the list without the longest end on which `p` holds throughout. -/
def dropEndWhile {α : Type} (p : α → Bool) (items : List α) : List α :=
  items.foldr (fun item rest => if rest.isEmpty && p item then [] else item :: rest) []

/-- `dropEndWhile p [] = []`: nothing is left of an empty list. -/
@[simp] theorem dropEndWhile_nil {α : Type} (p : α → Bool) : dropEndWhile p [] = [] := rfl

/-- An item is dropped if `p` holds for it and nothing is left of what comes after it. -/
theorem dropEndWhile_cons {α : Type} (p : α → Bool) (item : α) (items : List α) :
    dropEndWhile p (item :: items) =
      if (dropEndWhile p items).isEmpty && p item then [] else item :: dropEndWhile p items := rfl

namespace Text

/-- **The blanks**: the code points with the Unicode property `White_Space`, in ascending order. -/
def blanks : List CodeRange :=
  [⟨0x9, 0xd⟩, ⟨0x20, 0x20⟩, ⟨0x85, 0x85⟩, ⟨0xa0, 0xa0⟩, ⟨0x1680, 0x1680⟩, ⟨0x2000, 0x200a⟩,
   ⟨0x2028, 0x2029⟩, ⟨0x202f, 0x202f⟩, ⟨0x205f, 0x205f⟩, ⟨0x3000, 0x3000⟩]

/-- `isBlank c`: whether a character is a blank. -/
def isBlank (c : Char) : Bool := CodeRange.covers blanks c.toNat

/-- `trimStart text`: the text from its first character that is not blank. -/
def trimStart (text : Text) : Text := text.dropWhile isBlank

/-- `trimEnd text`: the text up to its last character that is not blank. -/
def trimEnd (text : Text) : Text := dropEndWhile isBlank text

/-- `trim text`: the text from its first to its last character that is not blank. -/
def trim (text : Text) : Text := trimEnd (trimStart text)

/-- An empty text has nothing to trim. -/
@[simp] theorem trim_nil : trim [] = [] := rfl

end Text

end RomCompiler
