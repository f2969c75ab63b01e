import RomCompiler.Proofs.Hexdump.Columns
import RomCompiler.Proofs.Hexdump.Runs

/-! # What a hexdump looks like

Every row of a hexdump has its bytes in the same columns, counted from the end of its offset: two
digits for each byte, a wider gap in the middle, and after a bar one character for each byte again.
* **`byteColumn`**, **`Columns`**, **`RowLine`** — the columns of the bytes, what is in all columns
  after the offset, and a whole line.
* **`Line.Shows`** — the texts of all kinds of lines.
* **`columns_rowBack`** — the columns of a row that is written; **`shows_render`** — every line.
* **`render_eq_view`** — the text of a hexdump is that of the runs of its rows. -/

namespace RomCompiler.Hexdump

open Numeral

/-- **The first of the two columns of byte `i`**, counted from the end of the offset. A byte takes
three columns, and the second eight are one further to the right. -/
def byteColumn (i : Nat) : Nat := 2 + 3 * i + i / 8

/-- **What stands in the columns of a row, counted from the end of its offset**: `Columns row text`,
with `byteColumn i` for the first of those of byte `i`. -/
structure Columns (row : Bytes) (text : Text) : Prop where
  /-- There are no more columns than those told here. -/
  length_eq : text.length = 54 + row.length
  /-- Each byte has two digits in its columns. -/
  byte_at : ∀ i byte, row[i]? = some byte →
    Column 2 ((text.drop (byteColumn i)).take 2) byte.toNat
  /-- The other columns in front of the first bar are blank. -/
  blank_at : ∀ column < 52,
    (∀ i < row.length, column ≠ byteColumn i ∧ column ≠ byteColumn i + 1) →
      text[column]? = some ' '
  /-- The first bar comes after the columns of all sixteen bytes, however many there are. -/
  bar_at : text[52]? = some '|'
  /-- Each byte has one character after the first bar: its own, or a dot. -/
  char_at : ∀ i byte, row[i]? = some byte → text[53 + i]? =
    some (if 0x20 ≤ byte ∧ byte ≤ 0x7e then Char.ofNat byte.toNat else '.')
  /-- The second bar comes after these characters. -/
  last_bar_at : text[53 + row.length]? = some '|'

/-- **The line of a row, without its end**: the offset in a `Column` of eight digits, and then the
`Columns` of the row. -/
structure RowLine (offset : Nat) (row : Bytes) (line : Text) : Prop where
  /-- The offset fills a column of eight, and the bytes have their columns after it. -/
  exists_offset : ∃ number text, line = number ++ text ∧ Column 8 number offset ∧ Columns row text
  /-- After an offset of eight digits the first bar is in column 60. -/
  idxOf_bar : offset < 0x100000000 → line.idxOf '|' = 60
  /-- After an offset of eight digits the line ends two columns after its characters. -/
  length_eq : offset < 0x100000000 → line.length = 62 + row.length

/-- **A text is that of a line of a hexdump**: `line.Shows text`. -/
inductive Line.Shows : Line → Text → Prop
  /-- A row is shown with its offset. -/
  | row {offset : Nat} {row : Bytes} {line : Text} (h : RowLine offset row line) :
      Shows (.row offset row) (line ++ ['\n'])
  /-- Repeated rows are shown as a star. -/
  | repeated : Shows .repeated ['*', '\n']
  /-- The length is shown like an offset. -/
  | total {length : Nat} {number : Text} (h : Column 8 number length) :
      Shows (.total length) (number ++ ['\n'])

variable {row : Bytes}

/-! ## Places in the hexadecimal part -/

/-- `(hexByte byte).length = 2`: a byte has two digits. -/
@[simp] theorem length_hexByte (byte : UInt8) : (hexByte byte).length = 2 :=
  length_leftpad_toDigits (by decide) byte.toNat_lt

/-- The place of a byte has its digits, perhaps after a gap. -/
theorem hexCell_of_some {i : Nat} {byte : UInt8} (h : row[i]? = some byte) :
    hexCell row i = (if i % 8 = 0 then [' '] else []) ++ (hexByte byte ++ [' ']) := by
  rw [hexCell, h]

/-- A place without a byte is blank. -/
theorem hexCell_of_none {i : Nat} (h : row[i]? = none) :
    hexCell row i = (if i % 8 = 0 then [' '] else []) ++ [' ', ' ', ' '] := by
  rw [hexCell, h]

/-- `(hexCell row i).length = (if i % 8 = 0 then 1 else 0) + 3`: a place takes three columns, and
one more at the start of each eight. -/
theorem length_hexCell (row : Bytes) (i : Nat) :
    (hexCell row i).length = (if i % 8 = 0 then 1 else 0) + 3 := by
  rw [hexCell, List.length_append]
  congr 1
  · split <;> rfl
  · split <;> simp

/-- The first `count` cells of `hexPart`. -/
def hexFront (row : Bytes) (count : Nat) : Text := (List.range count).flatMap (hexCell row)

/-- One more place comes after the places before it. -/
theorem hexFront_succ (row : Bytes) (count : Nat) :
    hexFront row (count + 1) = hexFront row count ++ hexCell row count := by
  rw [hexFront, List.range_succ, List.flatMap_append, List.flatMap_singleton]
  rfl

/-- `(hexFront row count).length = 3 * count + (count + 7) / 8`: the first places take three columns
each, and one more for every eight that have begun. -/
theorem length_hexFront (row : Bytes) (count : Nat) :
    (hexFront row count).length = 3 * count + (count + 7) / 8 := by
  induction count with
  | zero => rfl
  | succ count ih =>
    rw [hexFront_succ, List.length_append, ih, length_hexCell]
    split <;> omega

/-- `(hexPart row).length = 50`: the hexadecimal part of a row has the same length for all rows. -/
theorem length_hexPart (row : Bytes) : (hexPart row).length = 50 :=
  length_hexFront row rowLength

/-- Every place stands after those before it. -/
theorem exists_hexFront_eq {i count : Nat} (h : i < count) :
    ∃ back, hexFront row count = hexFront row i ++ hexCell row i ++ back := by
  induction count with
  | zero => exact absurd h (Nat.not_lt_zero i)
  | succ count ih =>
    rw [hexFront_succ]
    rcases Nat.lt_succ_iff_lt_or_eq.mp h with hlt | rfl
    · obtain ⟨back, hback⟩ := ih hlt
      exact ⟨back ++ hexCell row count, by rw [hback, List.append_assoc]⟩
    · exact ⟨[], (List.append_nil _).symm⟩

/-- The digits of a byte stand in its columns. -/
theorem exists_hexPart_eq {i : Nat} {byte : UInt8} (hi : i < rowLength)
    (hbyte : row[i]? = some byte) :
    ∃ front back, ' ' :: hexPart row = front ++ hexByte byte ++ back ∧
      front.length = byteColumn i := by
  obtain ⟨back, hback⟩ : ∃ back, hexFront row rowLength = hexFront row i ++ hexCell row i ++ back :=
    exists_hexFront_eq hi
  refine ⟨' ' :: (hexFront row i ++ if i % 8 = 0 then [' '] else []), ' ' :: back, ?_, ?_⟩
  · rw [show hexPart row = hexFront row rowLength from rfl, hback, hexCell_of_some hbyte]
    simp
  · rw [List.length_cons, List.length_append, length_hexFront, byteColumn]
    split
    · simp only [List.length_singleton]
      omega
    · simp only [List.length_nil]
      omega

/-- `(hexCell row i)[column]? = some ' '`: in a place, every column is blank but the two of a byte
that is there. -/
theorem getElem?_hexCell {i column : Nat} (hcolumn : column < (hexCell row i).length)
    (h : i < row.length → column ≠ (if i % 8 = 0 then 1 else 0) ∧
      column ≠ (if i % 8 = 0 then 1 else 0) + 1) : (hexCell row i)[column]? = some ' ' := by
  rw [length_hexCell] at hcolumn
  by_cases hi : i < row.length
  · obtain ⟨first, second, hdigits⟩ := List.length_eq_two.mp (length_hexByte row[i])
    obtain ⟨hfirst, hsecond⟩ := h hi
    rw [hexCell_of_some (List.getElem?_eq_getElem hi), hdigits]
    split at hcolumn <;> interval_cases column <;> simp_all
  · rw [hexCell_of_none (List.getElem?_eq_none (Nat.le_of_not_lt hi))]
    split at hcolumn <;> interval_cases column <;> simp_all

/-- `(hexFront row count)[column]? = some ' '`: in the first places, every column is blank but those
of the bytes that are there. -/
theorem getElem?_hexFront {count column : Nat} (hcolumn : column < (hexFront row count).length)
    (h : ∀ i < row.length, column + 1 ≠ byteColumn i ∧ column + 1 ≠ byteColumn i + 1) :
    (hexFront row count)[column]? = some ' ' := by
  induction count with
  | zero => exact absurd hcolumn (Nat.not_lt_zero column)
  | succ count ih =>
    rw [hexFront_succ] at hcolumn ⊢
    by_cases hfront : column < (hexFront row count).length
    · rw [List.getElem?_append_left hfront]
      exact ih hfront
    · have hle : (hexFront row count).length ≤ column := Nat.le_of_not_lt hfront
      rw [List.length_append] at hcolumn
      rw [List.getElem?_append_right hle]
      apply getElem?_hexCell (by omega)
      intro hcount
      obtain ⟨hfirst, hsecond⟩ := h count hcount
      rw [length_hexFront] at hle ⊢
      rw [byteColumn] at hfirst hsecond
      split <;> constructor <;> omega

/-! ## The line of a row -/

/-- A byte that is printable ASCII is shown as its own character, and any other as a dot. -/
theorem charCell_eq (byte : UInt8) :
    charCell byte = if 0x20 ≤ byte ∧ byte ≤ 0x7e then Char.ofNat byte.toNat else '.' := by
  have hlast : byte < 0x7f ↔ byte ≤ 0x7e := by
    rw [UInt8.lt_iff_toNat_lt, UInt8.le_iff_toNat_le]
    exact Nat.lt_succ_iff
  simp only [charCell, hlast]

/-- What comes after the offset of a row: `hexPart row`, the first bar, the characters and the
second bar. -/
def rowBack (row : Bytes) : Text :=
  ' ' :: (hexPart row ++ ' ' :: '|' :: (row.map charCell ++ ['|']))

/-- **All that comes after the offset of a row is in its columns**: `Columns row (rowBack row)`. -/
theorem columns_rowBack (h : row.length ≤ rowLength) : Columns row (rowBack row) := by
  have hhex : (' ' :: hexPart row).length = 51 := by
    rw [List.length_cons, length_hexPart]
  have hback : rowBack row = (' ' :: hexPart row) ++ ([' ', '|'] ++ (row.map charCell ++ ['|'])) :=
    rfl
  have hfront : (' ' :: hexPart row ++ [' ', '|']).length = 53 := by
    rw [List.length_append, hhex]
    rfl
  constructor
  case length_eq =>
    rw [hback, List.length_append, hhex]
    simp
    omega
  case byte_at =>
    intro i byte hbyte
    obtain ⟨hi, -⟩ := List.getElem?_eq_some_iff.mp hbyte
    obtain ⟨front, back, heq, hlength⟩ := exists_hexPart_eq (hi.trans_le h) hbyte
    have hdigits : ((rowBack row).drop (byteColumn i)).take 2 = hexByte byte := by
      rw [hback, heq, ← hlength, List.append_assoc, List.append_assoc, List.drop_left,
        ← length_hexByte byte, List.take_left]
    rw [hdigits]
    exact column_leftpad (by decide) byte.toNat
  case blank_at =>
    intro column hcolumn hblank
    rcases column with _ | column
    · rfl
    · by_cases hpart : column < (hexPart row).length
      · rw [rowBack, List.getElem?_cons_succ, List.getElem?_append_left hpart]
        exact getElem?_hexFront hpart hblank
      · have hlast : column = (hexPart row).length := by
          rw [length_hexPart] at hpart ⊢
          omega
        rw [rowBack, List.getElem?_cons_succ, hlast, List.getElem?_append_right (Nat.le_refl _),
          Nat.sub_self]
        rfl
  case bar_at =>
    rw [hback, List.getElem?_append_right (by omega), hhex]
    rfl
  case char_at =>
    intro i byte hbyte
    obtain ⟨hi, -⟩ := List.getElem?_eq_some_iff.mp hbyte
    have hchar : (row.map charCell)[i]? = some (charCell byte) := by
      rw [List.getElem?_map, hbyte]
      rfl
    rw [hback, ← List.append_assoc, List.getElem?_append_right (by omega), hfront,
      Nat.add_sub_cancel_left, List.getElem?_append_left (by simpa using hi), hchar, charCell_eq]
  case last_bar_at =>
    rw [hback, ← List.append_assoc, List.getElem?_append_right (by omega), hfront,
      Nat.add_sub_cancel_left, List.getElem?_append_right (by simp)]
    simp

/-- `(offsetColumn n).length = 8`: an offset that needs no more than eight digits has as many. -/
theorem length_offsetColumn {n : Nat} (h : n < 0x100000000) : (offsetColumn n).length = 8 :=
  length_leftpad_toDigits (by decide) h

/-- `RowLine offset row (offsetColumn offset ++ rowBack row)`: a row is shown as a line with all of
its bytes in their columns. -/
theorem rowLine_append (offset : Nat) (h : row.length ≤ rowLength) :
    RowLine offset row (offsetColumn offset ++ rowBack row) where
  exists_offset := ⟨offsetColumn offset, rowBack row, rfl, column_leftpad (by decide) offset,
    columns_rowBack h⟩
  idxOf_bar := by
    intro hoffset
    have hline : offsetColumn offset ++ rowBack row =
        rowFront offset row ++ '|' :: (row.map charCell ++ ['|']) := by
      rw [rowFront, rowBack]
      simp
    have hbar : '|' ∉ rowFront offset row := notMem_rowFront (by decide) (by decide) offset row
    rw [hline, List.idxOf_append_of_notMem hbar, List.idxOf_cons_self, rowFront,
      List.length_append, length_offsetColumn hoffset, List.length_cons, List.length_append,
      length_hexPart]
    rfl
  length_eq := by
    intro hoffset
    rw [List.length_append, length_offsetColumn hoffset, (columns_rowBack h).length_eq]
    omega

/-! ## All lines -/

/-- **Every line of a hexdump is written as such a line is shown**: `line.Shows line.render`. -/
theorem shows_render {line : Line} (h : Legible line) : line.Shows line.render := by
  cases line with
  | row offset row =>
    have hrender :
        Line.render (.row offset row) = offsetColumn offset ++ rowBack row ++ ['\n'] := by
      rw [Line.render, ← hexPart, rowBack]
      simp
    rw [hrender]
    exact .row (rowLine_append offset h.2)
  | repeated => exact .repeated
  | total length => exact .total (column_leftpad (by decide) length)

/-- **The text of a hexdump is that of the runs of its rows.** There is one `cut` of the bytes into
rows of sixteen, as `IsCut` says. In `view bytes cut` each longest run of equal rows is shown by its
first row, with the offset of that, and by one star if it has more rows; after that comes the length
of anything that is not empty. All of these lines look as `Line.Shows` says, column by column. -/
theorem render_eq_view (bytes : Bytes) :
    ∃ cut, (∀ other, IsCut bytes other ↔ other = cut) ∧
      render bytes = (view bytes cut).flatMap Line.render ∧
      ∀ line ∈ view bytes cut, line.Shows line.render := by
  refine ⟨rows bytes, fun other => isCut_iff, ?_, ?_⟩
  · rw [render, layout_eq_view]
  · intro line hline
    rw [← layout_eq_view] at hline
    exact shows_render (legible_of_mem_layout hline)

end RomCompiler.Hexdump
