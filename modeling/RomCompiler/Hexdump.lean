import RomCompiler.Bytes
import RomCompiler.Text.Blank

/-! # Hexdumps

A hexdump shows bytes in rows of sixteen, in hexadecimal and as characters. Of equal rows in
succession the first one is shown, and a single star for all the others.
- **`rows`** — the bytes in rows of sixteen, the last of which may be shorter.
- **`Line`** — what a line of a hexdump shows, and **`Line.render`** its text.
- **`Squeezer`** — what is known after some of the rows: the lines so far and the last row.
- **`render`** — the text of the hexdump. -/

namespace RomCompiler.Hexdump

/-- The number of bytes in a full row, `16`. -/
def rowLength : Nat := 16

/-- `rows bytes`: the bytes in rows of sixteen; what is left at the end is a shorter row. -/
def rows (bytes : Bytes) : List Bytes :=
  let memory := bytes.toArray
  (List.range ((memory.size + (rowLength - 1)) / rowLength)).map fun i =>
    (memory.extract (i * rowLength) ((i + 1) * rowLength)).toList

/-- **A line of a hexdump.** -/
inductive Line where
  /-- A row of bytes and the offset of its first byte. -/
  | row (offset : Nat) (bytes : Bytes)
  /-- Rows that are equal to the one before them. -/
  | repeated
  /-- The number of all bytes. -/
  | total (length : Nat)
  deriving DecidableEq, Repr

/-- **A number in at least eight hexadecimal digits**, filled up with zeros in front. -/
def offsetColumn (n : Nat) : Text := (Nat.toDigits 16 n).leftpad 8 '0'

/-- A byte in two hexadecimal digits, in lower case. -/
def hexByte (byte : UInt8) : Text := (Nat.toDigits 16 byte.toNat).leftpad 2 '0'

/-- `hexCell bytes i`: the place of byte `i` in the hexadecimal part of a row, blank where the row
has ended, with a gap before each group of eight. -/
def hexCell (bytes : Bytes) (i : Nat) : Text :=
  (if i % 8 = 0 then [' '] else []) ++
    match bytes[i]? with
    | some byte => hexByte byte ++ [' ']
    | none => [' ', ' ', ' ']

/-- **The character that stands for a byte**: its own, if that is printable ASCII (`0x20` to
`0x7e`), or a dot. -/
def charCell (byte : UInt8) : Char :=
  if 0x20 ≤ byte ∧ byte < 0x7f then Char.ofNat byte.toNat else '.'

/-- **The text of a line**, with its end. -/
def Line.render : Line → Text
  | .row offset bytes =>
    offsetColumn offset ++ [' '] ++ (List.range rowLength).flatMap (hexCell bytes) ++
      [' ', '|'] ++ bytes.map charCell ++ ['|', '\n']
  | .repeated => ['*', '\n']
  | .total length => offsetColumn length ++ ['\n']

/-- **What is known after some of the rows.** -/
structure Squeezer where
  /-- The lines so far, the last one first. -/
  shown : List Line
  /-- The last row, if there was one. -/
  last : Option Bytes
  /-- Whether the last line stands for repeated rows. -/
  squeezed : Bool
  deriving DecidableEq, Repr

/-- Before the first row. -/
def Squeezer.start : Squeezer := ⟨[], none, false⟩

/-- **One more row**: shown if it differs from `state.last`, the row before it, and else covered by
one star. -/
def Squeezer.push (state : Squeezer) (row : Bytes × Nat) : Squeezer :=
  if state.last = some row.1 then
    if state.squeezed then state
    else { state with shown := .repeated :: state.shown, squeezed := true }
  else ⟨.row (row.2 * rowLength) row.1 :: state.shown, some row.1, false⟩

/-- **The lines of a hexdump**: those that `Squeezer.push` shows of the rows, and the length of
anything that is not empty. -/
def layout (bytes : Bytes) : List Line :=
  ((rows bytes).zipIdx.foldl Squeezer.push .start).shown.reverse ++
    if bytes.isEmpty then [] else [.total bytes.length]

/-- `render bytes`: the text of the hexdump of some bytes. -/
def render (bytes : Bytes) : Text := (layout bytes).flatMap Line.render

/-- `render [] = []`: there is nothing to show of no bytes. -/
@[simp] theorem render_nil : render [] = [] := rfl

end RomCompiler.Hexdump
