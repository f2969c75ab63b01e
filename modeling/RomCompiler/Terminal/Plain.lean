import RomCompiler.Text.Blank

/-! # Texts without terminal controls

A terminal obeys control characters, and sequences of characters that an escape opens, instead of
showing them. The plain form of a text is what is left to be shown, so that a text can be passed on
without a word of what it would have told a terminal.
- **`Role`** — the part that a character can play inside a sequence.
- **`Place`** — how far into a sequence a text has come; `Place.next` is the place after one more
  character.
- **`plain`** — the plain form of a text. -/

namespace RomCompiler.Terminal

/-- **The part that a character can play inside a sequence.** -/
inductive Role where
  /-- A character that comes between the start of a sequence and its parameters or its end. -/
  | intermediate
  /-- A character of a parameter. -/
  | parameter
  /-- A character that marks the parameters as private, in front of them. -/
  | privateMark
  /-- A character that ends a sequence or its header. -/
  | final
  /-- A control character, or one beyond ASCII. -/
  | none
  deriving DecidableEq, Repr

/-- The part that a character plays. -/
def Role.ofChar (c : Char) : Role :=
  if c < ' ' then .none
  else if c ≤ '/' then .intermediate
  else if c ≤ ';' then .parameter
  else if c ≤ '?' then .privateMark
  else if c ≤ '~' then .final
  else .none

/-- **How far into a sequence a text has come**; outside of sequences it is `ground`. -/
inductive Place where
  /-- In no sequence. -/
  | ground
  /-- After an escape. -/
  | escape
  /-- After an escape and intermediate characters. -/
  | escapeIntermediate
  /-- In a control sequence, which an escape and a bracket open. -/
  | sequence
  /-- At the start of the header of a device control string. -/
  | header
  /-- After parameters in such a header. -/
  | headerParameter
  /-- After intermediate characters in such a header. -/
  | headerIntermediate
  /-- In the body of a control string. -/
  | string
  /-- In a command to the system that runs the terminal. -/
  | command
  deriving DecidableEq, Repr

namespace Place

/-- The place after an escape and the character that says what it opens: a `sequence`, a `command`,
a `header` or a `string`. -/
def opened (c : Char) : Place :=
  if c = '[' then .sequence
  else if c = ']' then .command
  else if c = 'P' then .header
  else if c = 'X' ∨ c = '^' ∨ c = '_' then .string
  else .ground

/-- **Whether a character ends a control string.** The string is read byte by byte, and each `0x9c`
is taken for its end, also as a part of a longer character. -/
def endsString (c : Char) : Bool := (String.utf8EncodeChar c).contains 0x9c

/-- The place after one more character that is not shown. An escape opens a sequence in the middle
of any other one; cancel and substitute end them all. -/
def next (place : Place) (c : Char) : Place :=
  if c = '\x1b' then .escape
  else if c = '\x18' ∨ c = '\x1a' then .ground
  else
    match place, Role.ofChar c with
    | .escape, .intermediate => .escapeIntermediate
    | .escape, .parameter | .escape, .privateMark => .ground
    | .escape, .final => opened c
    | .escapeIntermediate, .parameter | .escapeIntermediate, .privateMark
    | .escapeIntermediate, .final | .sequence, .final => .ground
    | .header, .intermediate | .headerParameter, .intermediate => .headerIntermediate
    | .header, .parameter | .header, .privateMark => .headerParameter
    | .headerParameter, .privateMark | .headerIntermediate, .parameter
    | .headerIntermediate, .privateMark | .header, .final | .headerParameter, .final
    | .headerIntermediate, .final => .string
    | .string, _ => if endsString c then .ground else .string
    | .command, _ => if c = '\x07' then .ground else .command
    | place, _ => place

end Place

/-- Whether a character moves the text on without a mark: a tab, or the end of a line or page. -/
def isSpacing (c : Char) : Bool := c = '\t' ∨ c = '\n' ∨ c = '\x0c' ∨ c = '\r'

/-- Whether a character is a control character of ASCII. -/
def isControl (c : Char) : Bool := c < ' ' ∨ c = '\x7f'

/-- Whether a character is shown outside of sequences: it `isSpacing`, or is no control. The control
characters beyond ASCII are shown. -/
def isShown (c : Char) : Bool := isSpacing c || !isControl c

/-- **Whether a character is shown at a place.** Spacing is obeyed in the middle of a sequence as if
it stood before it, except in strings and commands, which have it as a part. -/
def Place.shows (place : Place) (c : Char) : Bool :=
  match place with
  | .ground => isShown c
  | .escape | .escapeIntermediate | .sequence => isSpacing c
  | .header | .headerParameter | .headerIntermediate | .string | .command => false

/-- **What is known after a part of a text**: the `Place` it has come to, and what it has shown. -/
structure Reading where
  /-- How far into a sequence the part has come. -/
  place : Place := .ground
  /-- Whether its last character was shown. -/
  showing : Bool := false
  /-- The characters shown, the last one first. -/
  shown : Text := []
  deriving DecidableEq, Repr

namespace Reading

/-- `reading.shows c`: whether the next character is shown. After one that was, all are shown that
are no controls, even where spacing has interrupted a sequence. -/
def shows (reading : Reading) (c : Char) : Bool :=
  if reading.showing then isShown c else reading.place.shows c

/-- After one more character. A sequence that spacing has interrupted goes on at the next character
that is not shown, unless one beyond ASCII has ended it. -/
def next (reading : Reading) (c : Char) : Reading :=
  if reading.shows c then
    { place := if c ≤ '\x7f' then reading.place else .ground
      showing := true
      shown := c :: reading.shown }
  else { reading with place := reading.place.next c, showing := false }

end Reading

/-- `plain text`: a text without the characters that are not shown. -/
def plain (text : Text) : Text := (text.foldl Reading.next {}).shown.reverse

end RomCompiler.Terminal
