import Mathlib.Data.List.TakeWhile
import RomCompiler.Proofs.Hexdump.Restore
import RomCompiler.Proofs.Numeral.Shortest

/-! # Reading a hexdump

A hexdump is read from the part of each line before the first bar, where the offset and the bytes
stand; the characters behind the bar are not looked at. Offsets may take any number of digits, so
the words of a line count, and not their columns.
* **`columns`** — the lines of a hexdump, each up to the bar.
* **`Line.read?`**, **`decode`** — the line that such a text is, and the bytes that all of them are.
* **`Legible`** — the lines that can be read, which all lines of a hexdump are
  (`legible_of_mem_layout`).
* **`exists_render_eq`** — a legible line is read back; **`mapM_read?_columns`** — so are all lines.
* **`decode_columns_render`** — the bytes are read back from their hexdump, which therefore tells
  them apart from any others. -/

namespace RomCompiler

/-- `hexValue? text`: the number that hexadecimal digits stand for, however many there are. -/
def Numeral.hexValue? (text : Text) : Option Nat :=
  text.foldlM (fun n c => (hexDigit? c).map (n * 16 + ·)) 0

namespace Hexdump

open Numeral

/-- `words text`: the words of a text, with blanks between them. -/
def words (text : Text) : List Text := (text.splitOn ' ').filter (!·.isEmpty)

/-- **The lines of a hexdump, without their characters**: each one up to the first bar. -/
def columns (text : Text) : List Text :=
  ((text.splitOn '\n').dropLast).map (·.takeWhile (· != '|'))

/-- The byte that is written as a word, by its `hexValue?`. -/
def byte? (word : Text) : Option UInt8 := (hexValue? word).map UInt8.ofNat

/-- **The line that a text is without its characters**, told from its `words`: a star, the length
alone, or an offset with bytes after it. -/
def Line.read? (text : Text) : Option Line :=
  match words text with
  | [] => none
  | [word] => if word = ['*'] then some .repeated else (hexValue? word).map .total
  | offset :: cells => do return .row (← hexValue? offset) (← cells.mapM byte?)

/-- `decode columns`: the bytes of a hexdump, read from its lines without their characters. -/
def decode (columns : List Text) : Option Bytes := (columns.mapM Line.read?).map restore

/-- **A line that can be read**: a row has at least one byte, and at most `rowLength` of them. -/
def Legible : Line → Prop
  | .row _ bytes => bytes ≠ [] ∧ bytes.length ≤ rowLength
  | _ => True

/-! ## Numbers and words -/

/-- Digits are read from left to right after others. -/
theorem foldlM_of_digits {text : Text} {n : Nat} (digits : Digits 16 text n) (acc : Nat) :
    text.foldlM (fun n c => (hexDigit? c).map (n * 16 + ·)) acc =
      some (acc * 16 ^ text.length + n) := by
  induction digits generalizing acc with
  | nil => simp
  | @cons c d n rest digit _ _ ih =>
    have hregroup : (acc * 16 + d) * 16 ^ rest.length + n =
        acc * 16 ^ (rest.length + 1) + (d * 16 ^ rest.length + n) := by ring
    rw [List.foldlM_cons, hexDigit?_eq_some_iff.mpr digit, Option.map_some, Option.bind_eq_bind,
      Option.bind_some, ih, hregroup]
    rfl

/-- `hexValue? text = some n`: digits are read as the number they stand for. -/
theorem hexValue?_of_digits {text : Text} {n : Nat} (digits : Digits 16 text n) :
    hexValue? text = some n := by
  rw [hexValue?, foldlM_of_digits digits]
  simp

/-- `Digits 16 (offsetColumn n) n`: the digits of an offset stand for it. -/
theorem digits_offsetColumn (n : Nat) : Digits 16 (offsetColumn n) n :=
  digits_leftpad (by decide) (digits_toDigits (by decide) (by decide) n) 8

/-- `Digits 16 (hexByte byte) byte.toNat`: the digits of a byte stand for it. -/
theorem digits_hexByte (byte : UInt8) : Digits 16 (hexByte byte) byte.toNat :=
  digits_leftpad (by decide) (digits_toDigits (by decide) (by decide) byte.toNat) 2

/-- `byte? (hexByte byte) = some byte`: a byte is read back. -/
theorem byte?_hexByte (byte : UInt8) : byte? (hexByte byte) = some byte := by
  rw [byte?, hexValue?_of_digits (digits_hexByte byte), Option.map_some, UInt8.ofNat_toNat]

/-- `(bytes.map hexByte).mapM byte? = some bytes`: all bytes of a row are read back. -/
theorem mapM_byte?_hexByte (bytes : Bytes) : (bytes.map hexByte).mapM byte? = some bytes := by
  induction bytes with
  | nil => rfl
  | cons byte bytes ih =>
    rw [List.map_cons, List.mapM_cons, byte?_hexByte, ih]
    rfl

/-- `text.leftpad width '0' ≠ []`: a number has at least as many digits as its column. -/
theorem leftpad_ne_nil {text : Text} (h : text ≠ []) (width : Nat) :
    text.leftpad width '0' ≠ [] := by
  rw [List.leftpad]
  exact List.append_ne_nil_of_right_ne_nil _ h

/-- There are no words in the empty text. -/
@[simp] theorem words_nil : words [] = [] := rfl

/-- `words (front ++ ' ' :: back) = words front ++ words back`: a blank has the words before it and
those after it. -/
theorem words_append (front back : Text) :
    words (front ++ ' ' :: back) = words front ++ words back := by
  rw [words, List.splitOn_append_cons_self, List.filter_append]
  rfl

/-- `words (' ' :: text) = words text`: a blank in front of a text makes no word. -/
@[simp] theorem words_blank_cons (text : Text) : words (' ' :: text) = words text :=
  words_append [] text

/-- `words word = [word]`: a text without blanks is one word. -/
theorem words_of_notMem {word : Text} (hne : word ≠ []) (h : ' ' ∉ word) : words word = [word] := by
  rw [words, List.splitOn_eq_singleton h]
  simp [hne]

/-- `words (word ++ ' ' :: rest) = word :: words rest`: a word and a blank in front of a text are
one more word. -/
theorem words_word_append {word : Text} (hne : word ≠ []) (h : ' ' ∉ word) (rest : Text) :
    words (word ++ ' ' :: rest) = word :: words rest := by
  rw [words_append, words_of_notMem hne h]
  rfl

/-! ## The bytes of a row -/

/-- The byte of a place is one more word; a place without a byte has none. -/
theorem words_hexCell_append (bytes : Bytes) (i : Nat) (rest : Text) :
    words (hexCell bytes i ++ rest) = bytes[i]?.toList.map hexByte ++ words rest := by
  have hgap : ∀ text, words ((if i % 8 = 0 then [' '] else []) ++ text) = words text := by
    intro text
    split <;> simp
  rw [hexCell, List.append_assoc, hgap]
  rcases bytes[i]? with _ | byte
  · simp
  · have hne : hexByte byte ≠ [] := leftpad_ne_nil Nat.toDigits_ne_nil 2
    have hblank : ' ' ∉ hexByte byte := notMem_of_digits (digits_hexByte byte) (by decide)
    rw [List.append_assoc, List.singleton_append, words_word_append hne hblank]
    rfl

/-- The words of some places are the bytes there. -/
theorem words_flatMap_hexCell_append (bytes : Bytes) (places : List Nat) (rest : Text) :
    words (places.flatMap (hexCell bytes) ++ rest) =
      (places.flatMap (bytes[·]?.toList)).map hexByte ++ words rest := by
  induction places with
  | nil => rfl
  | cons i places ih =>
    rw [List.flatMap_cons, List.append_assoc, words_hexCell_append, ih, List.flatMap_cons,
      List.map_append, List.append_assoc]

/-- The first places have the first bytes. -/
theorem flatMap_getElem?_range (bytes : Bytes) (count : Nat) :
    (List.range count).flatMap (bytes[·]?.toList) = bytes.take count := by
  induction count with
  | zero => rfl
  | succ count ih =>
    rw [List.range_succ, List.flatMap_append, ih, List.take_add_one]
    simp

/-- The hexadecimal part of a row: its `rowLength` cells. -/
def hexPart (bytes : Bytes) : Text := (List.range rowLength).flatMap (hexCell bytes)

/-- The words of the hexadecimal part are the bytes of the row. -/
theorem words_hexPart_append {bytes : Bytes} (h : bytes.length ≤ rowLength) (rest : Text) :
    words (hexPart bytes ++ rest) = bytes.map hexByte ++ words rest := by
  rw [hexPart, words_flatMap_hexCell_append, flatMap_getElem?_range, List.take_of_length_le h]

/-- `c ∉ hexPart bytes`: the hexadecimal part is made of digits and blanks. -/
theorem notMem_hexPart {c : Char} (hdigit : isHexDigit c = false) (hblank : c ≠ ' ')
    (bytes : Bytes) : c ∉ hexPart bytes := by
  intro hmem
  obtain ⟨i, -, hcell⟩ := List.mem_flatMap.mp hmem
  rw [hexCell, List.mem_append] at hcell
  rcases hcell with hgap | hbyte
  · split at hgap <;> simp [hblank] at hgap
  · split at hbyte
    · next byte _ =>
      rcases List.mem_append.mp hbyte with hbyte | hspace
      · exact notMem_of_digits (digits_hexByte byte) hdigit hbyte
      · exact hblank (List.mem_singleton.mp hspace)
    · simp [hblank] at hbyte

/-- `charCell byte ≠ '\n'`: the character shown for a byte does not end the line. -/
theorem charCell_ne_newline (byte : UInt8) : charCell byte ≠ '\n' := by
  rw [charCell]
  split
  · next hprintable =>
    intro heq
    have hnat : (Char.ofNat byte.toNat).toNat = byte.toNat := by
      have hvalid : byte.toNat.isValidChar := Or.inl (byte.toNat_lt.trans (by decide))
      rw [Char.ofNat, dif_pos hvalid]
      rfl
    have hge : 0x20 ≤ byte.toNat := UInt8.le_iff_toNat_le.mp hprintable.1
    rw [heq] at hnat
    simp only [Char.reduceToNat] at hnat
    omega
  · decide

/-! ## One line after the other -/

/-- `(front ++ '|' :: back).takeWhile (· != '|') = front`: what comes before the first bar of a
text. -/
theorem takeWhile_append_bar {front : Text} (h : '|' ∉ front) (back : Text) :
    (front ++ '|' :: back).takeWhile (· != '|') = front := by
  have hall : ∀ c ∈ front, (c != '|') = true :=
    fun c hc => bne_iff_ne.mpr (ne_of_mem_of_not_mem hc h)
  rw [List.takeWhile_append_of_pos hall]
  simp

/-- `text.takeWhile (· != '|') = text`: a text without bars is left as it is. -/
theorem takeWhile_of_notMem_bar {text : Text} (h : '|' ∉ text) :
    text.takeWhile (· != '|') = text := by
  have hall : ∀ c ∈ text, (c != '|') = true :=
    fun c hc => bne_iff_ne.mpr (ne_of_mem_of_not_mem hc h)
  exact List.takeWhile_eq_self_iff.mpr hall

/-- `Line.read? text = some (.row offset bytes)`: an offset with bytes after it is read as a row. -/
theorem read?_of_words_eq {text : Text} {offset : Nat} {bytes : Bytes} (hne : bytes ≠ [])
    (h : words text = offsetColumn offset :: bytes.map hexByte) :
    Line.read? text = some (.row offset bytes) := by
  obtain ⟨byte, rest, rfl⟩ := List.exists_cons_of_ne_nil hne
  have hoffset := hexValue?_of_digits (digits_offsetColumn offset)
  have hbytes := mapM_byte?_hexByte (byte :: rest)
  rw [List.map_cons] at h hbytes
  simp only [Line.read?, h]
  rw [hoffset, hbytes]
  rfl

/-- The part of a row before the first bar: the offset and `hexPart bytes`. -/
def rowFront (offset : Nat) (bytes : Bytes) : Text :=
  offsetColumn offset ++ ' ' :: (hexPart bytes ++ [' '])

/-- The words in front of the bar are the offset and the bytes. -/
theorem words_rowFront (offset : Nat) {bytes : Bytes} (h : bytes.length ≤ rowLength) :
    words (rowFront offset bytes) = offsetColumn offset :: bytes.map hexByte := by
  have hne : offsetColumn offset ≠ [] := leftpad_ne_nil Nat.toDigits_ne_nil 8
  have hblank : ' ' ∉ offsetColumn offset :=
    notMem_of_digits (digits_offsetColumn offset) (by decide)
  rw [rowFront, words_word_append hne hblank, words_hexPart_append h]
  simp

/-- `c ∉ rowFront offset bytes`: there is nothing but digits and blanks in front of the bar. -/
theorem notMem_rowFront {c : Char} (hdigit : isHexDigit c = false) (hblank : c ≠ ' ')
    (offset : Nat) (bytes : Bytes) : c ∉ rowFront offset bytes := by
  have hoffset := notMem_of_digits (digits_offsetColumn offset) hdigit
  have hhex := notMem_hexPart hdigit hblank bytes
  simp [rowFront, hoffset, hhex, hblank]

/-- **A legible line is a text that ends with the line, and is read back from what comes before the
first bar.** -/
theorem exists_render_eq {line : Line} (h : Legible line) :
    ∃ text, line.render = text ++ ['\n'] ∧ '\n' ∉ text ∧
      Line.read? (text.takeWhile (· != '|')) = some line := by
  cases line with
  | row offset bytes =>
    have hbar : '|' ∉ rowFront offset bytes := notMem_rowFront (by decide) (by decide) _ _
    have hfront : '\n' ∉ rowFront offset bytes := notMem_rowFront (by decide) (by decide) _ _
    have hchars : '\n' ∉ bytes.map charCell := by
      rw [List.mem_map]
      rintro ⟨byte, -, hbyte⟩
      exact charCell_ne_newline byte hbyte
    refine ⟨rowFront offset bytes ++ '|' :: (bytes.map charCell ++ ['|']), ?_, ?_, ?_⟩
    · rw [Line.render, ← hexPart, rowFront]
      simp
    · simp [hfront, hchars]
    · rw [takeWhile_append_bar hbar]
      exact read?_of_words_eq h.1 (words_rowFront offset h.2)
  | repeated => exact ⟨['*'], rfl, by decide, rfl⟩
  | total length =>
    have hlength := digits_offsetColumn length
    have hne : offsetColumn length ≠ [] := leftpad_ne_nil Nat.toDigits_ne_nil 8
    have hblank : ' ' ∉ offsetColumn length := notMem_of_digits hlength (by decide)
    have hstar : offsetColumn length ≠ ['*'] := by
      intro heq
      exact notMem_of_digits hlength (c := '*') (by decide) (by simp [heq])
    refine ⟨offsetColumn length, rfl, notMem_of_digits hlength (by decide), ?_⟩
    rw [takeWhile_of_notMem_bar (notMem_of_digits hlength (by decide)), Line.read?,
      words_of_notMem hne hblank]
    simp [hstar, hexValue?_of_digits hlength]

/-- **Legible lines are read back from their text.** -/
theorem mapM_read?_columns {lines : List Line} (h : ∀ line ∈ lines, Legible line) :
    (columns (lines.flatMap Line.render)).mapM Line.read? = some lines := by
  induction lines with
  | nil => rfl
  | cons line lines ih =>
    rw [List.forall_mem_cons] at h
    obtain ⟨text, hrender, hnewline, hread⟩ := exists_render_eq h.1
    have hsplit : columns ((line :: lines).flatMap Line.render) =
        text.takeWhile (· != '|') :: columns (lines.flatMap Line.render) := by
      have hne : (lines.flatMap Line.render).splitOn '\n' ≠ [] := List.splitOn_ne_nil _ _
      rw [List.flatMap_cons, hrender, List.append_assoc, List.singleton_append, columns,
        List.splitOn_append_cons_self, List.splitOn_eq_singleton hnewline, List.singleton_append,
        List.dropLast_cons_of_ne_nil hne, List.map_cons]
      rfl
    rw [hsplit, List.mapM_cons, hread, ih h.2]
    rfl

/-! ## All lines of a hexdump -/

/-- A line that is shown after some more rows was there before, is a star, or is one of the
rows. -/
theorem mem_shown_foldl {rows : List (Bytes × Nat)} {state : Squeezer} {line : Line}
    (h : line ∈ (rows.foldl Squeezer.push state).shown) :
    line ∈ state.shown ∨ line = .repeated ∨
      ∃ row ∈ rows, line = .row (row.2 * rowLength) row.1 := by
  induction rows generalizing state with
  | nil => exact Or.inl h
  | cons row rows ih =>
    rcases ih h with hshown | hstar | ⟨other, hother, hline⟩
    · rw [Squeezer.push] at hshown
      split at hshown
      · split at hshown
        · exact Or.inl hshown
        · rcases List.mem_cons.mp hshown with hstar | hshown
          · exact Or.inr (Or.inl hstar)
          · exact Or.inl hshown
      · rcases List.mem_cons.mp hshown with hline | hshown
        · exact Or.inr (Or.inr ⟨row, List.mem_cons_self, hline⟩)
        · exact Or.inl hshown
    · exact Or.inr (Or.inl hstar)
    · exact Or.inr (Or.inr ⟨other, List.mem_cons_of_mem _ hother, hline⟩)

/-- Every line of a hexdump is legible. -/
theorem legible_of_mem_layout {bytes : Bytes} {line : Line} (h : line ∈ layout bytes) :
    Legible line := by
  rw [layout, List.mem_append] at h
  rcases h with hshown | htotal
  · rcases mem_shown_foldl (List.mem_reverse.mp hshown) with hstart | rfl | ⟨row, hrow, rfl⟩
    · exact absurd hstart List.not_mem_nil
    · trivial
    · have hmem : row.1 ∈ rows bytes := List.fst_mem_of_mem_zipIdx hrow
      exact ⟨ne_nil_of_mem_rows hmem, length_le_of_mem_rows hmem⟩
  · split at htotal
    · exact absurd htotal List.not_mem_nil
    · rw [List.mem_singleton.mp htotal]
      trivial

/-- **The bytes are read back from their hexdump**, without a look at its characters:
`decode (columns (render bytes)) = some bytes`. So the hexdumps of different bytes are different. -/
theorem decode_columns_render :
    (∀ bytes, decode (columns (render bytes)) = some bytes) ∧ Function.Injective render := by
  have hdecode : ∀ bytes, decode (columns (render bytes)) = some bytes := by
    intro bytes
    rw [decode, render, mapM_read?_columns fun _ => legible_of_mem_layout, Option.map_some,
      restore_layout]
  refine ⟨hdecode, ?_⟩
  intro first second heq
  have hfirst := hdecode first
  rw [heq, hdecode second] at hfirst
  exact (Option.some.inj hfirst).symm

end Hexdump

end RomCompiler
