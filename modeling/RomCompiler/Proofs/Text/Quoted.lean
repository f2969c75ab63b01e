import Mathlib.Data.List.Nodup
import RomCompiler.Proofs.Numeral.Shortest
import RomCompiler.Text.Quoted

/-! # Texts that are told apart by their quotations

A quotation ends at its first quote that no backslash escapes, and until there it tells every
character, so it is read back from any text that goes on after it. Which characters are escaped
without need makes no difference to that.
* **`Escaped`** — the ways to write a character between quotes, of which `escape` is one
  (`escaped_escape`).
* **`Escaped.append_inj`** — a written character tells the character and the text after it;
  **`flatMap_append_inj`** — so do the written characters of a text, up to the closing quote.
* **`Writing`** — a way to write all characters, and quotations written so;
  **`quotedBy_append_inj`**, **`quotedCharBy_append_inj`** — what is quoted in front of a text is
  told apart.
* **`Numeral.toDigits_append_inj`** — a number is told apart by its digits up to a character that is
  none. -/

namespace RomCompiler

/-- Two texts up to the first mark, and what comes after it, are told by the whole. -/
theorem append_cons_inj_of_notMem {α : Type} {mark : α} {front other back rest : List α}
    (hfront : mark ∉ front) (hother : mark ∉ other)
    (h : front ++ mark :: back = other ++ mark :: rest) : front = other ∧ back = rest := by
  rcases List.append_eq_append_iff.mp h with ⟨middle, rfl, hmark⟩ | ⟨middle, rfl, hmark⟩
  · rcases middle with _ | ⟨head, middle⟩
    · exact ⟨(List.append_nil _).symm, (List.cons.inj hmark).2⟩
    · rw [← (List.cons.inj hmark).1] at hother
      exact absurd (by simp) hother
  · rcases middle with _ | ⟨head, middle⟩
    · exact ⟨List.append_nil _, (List.cons.inj hmark).2.symm⟩
    · rw [← (List.cons.inj hmark).1] at hfront
      exact absurd (by simp) hfront

/-- **The digits of a number up to a character that is no digit tell the number.** -/
theorem Numeral.toDigits_append_inj {base n m : Nat} {mark : Char} {back rest : Text}
    (hbase : 1 < base) (hle : base ≤ 16) (hmark : isHexDigit mark = false)
    (h : Nat.toDigits base n ++ mark :: back = Nat.toDigits base m ++ mark :: rest) :
    n = m ∧ back = rest := by
  have hn : Digits base (Nat.toDigits base n) n := digits_toDigits hbase hle n
  have hm : Digits base (Nat.toDigits base m) m := digits_toDigits hbase hle m
  obtain ⟨hdigits, hback⟩ :=
    append_cons_inj_of_notMem (notMem_of_digits hn hmark) (notMem_of_digits hm hmark) h
  rw [hdigits] at hn
  exact ⟨hn.unique hm, hback⟩

namespace Text

variable {quote c d : Char} {text other x y : Text}

/-! ## One character -/

/-- **The characters that are written as a backslash and a letter**, with this letter. -/
def letters (quote : Char) : List (Char × Char) :=
  [('\\', '\\'), ('\t', 't'), ('\n', 'n'), ('\r', 'r'), ('\x00', '0'), (quote, quote)]

/-- **A text stands for a character between `quote` characters.** Backslash and quote do not stand
for themselves, so that neither an escape nor the end of the quotation is mistaken; any other
character may be escaped or not. -/
inductive Escaped (quote : Char) : Char → Text → Prop
  /-- A backslash and a letter. -/
  | letter {c letter : Char} (h : (c, letter) ∈ letters quote) : Escaped quote c ['\\', letter]
  /-- The number of the character. -/
  | number (c : Char) : Escaped quote c (byNumber c)
  /-- The character itself. -/
  | plain {c : Char} (hbackslash : c ≠ '\\') (hquote : c ≠ quote) : Escaped quote c [c]

/-- `Escaped quote c (escape quote c)`: every character is written in one of these ways. -/
theorem escaped_escape (quote c : Char) : Escaped quote c (escape quote c) := by
  unfold escape
  split
  · exact .letter (by simp [letters])
  · exact .letter (by simp [letters])
  · exact .letter (by simp [letters])
  · exact .letter (by simp [letters])
  · exact .letter (by simp [letters])
  · next hbackslash _ _ _ _ =>
    by_cases hquote : c = quote
    · rw [if_pos hquote]
      exact .letter (by simp [letters, hquote])
    · rw [if_neg hquote]
      split
      · exact .number c
      · exact .plain hbackslash hquote

/-- **A character can be the quote**: every letter stands for one character only, and none of them
is `u`, which opens a number. -/
def IsQuote (quote : Char) : Prop := ('u' :: (letters quote).map Prod.snd).Nodup

instance (quote : Char) : Decidable (IsQuote quote) := inferInstanceAs (Decidable (List.Nodup _))

/-- A quote is not the backslash, which has a letter of its own. -/
theorem IsQuote.ne_backslash (h : IsQuote quote) : quote ≠ '\\' := by
  rintro rfl
  exact absurd h (by decide)

/-- A letter stands for one character only. -/
theorem IsQuote.eq_of_mem_letters (h : IsQuote quote) {letter : Char}
    (hc : (c, letter) ∈ letters quote) (hd : (d, letter) ∈ letters quote) : c = d :=
  congrArg Prod.fst (List.inj_on_of_nodup_map (List.nodup_cons.mp h).2 hc hd rfl)

/-- No letter opens a number. -/
theorem IsQuote.ne_of_mem_letters (h : IsQuote quote) {letter : Char}
    (hc : (c, letter) ∈ letters quote) : letter ≠ 'u' := by
  rintro rfl
  exact (List.nodup_cons.mp h).1 (List.mem_map_of_mem hc)

/-- Characters with the same code point are the same. -/
theorem byNumber_append_inj (h : byNumber c ++ x = byNumber d ++ y) : c = d ∧ x = y := by
  have hdigits : Nat.toDigits 16 c.toNat ++ '\x7d' :: x =
      Nat.toDigits 16 d.toNat ++ '\x7d' :: y := by
    simpa [byNumber] using h
  obtain ⟨hcode, hrest⟩ :=
    Numeral.toDigits_append_inj (by decide) (by decide) (by decide) hdigits
  exact ⟨Char.ext (UInt32.toNat_inj.mp hcode), hrest⟩

/-- **A written character tells the character and what comes after it.** -/
theorem Escaped.append_inj (hquote : IsQuote quote) (hc : Escaped quote c text)
    (hd : Escaped quote d other) (h : text ++ x = other ++ y) : c = d ∧ x = y := by
  cases hc with
  | letter hc =>
    cases hd with
    | letter hd =>
      obtain ⟨hletter, hrest⟩ := List.cons.inj (List.cons.inj h).2
      rw [← hletter] at hd
      exact ⟨hquote.eq_of_mem_letters hc hd, hrest⟩
    | number =>
      exact absurd (List.cons.inj (List.cons.inj h).2).1 (hquote.ne_of_mem_letters hc)
    | plain hne => exact absurd (List.cons.inj h).1.symm hne
  | number =>
    cases hd with
    | letter hd =>
      exact absurd (List.cons.inj (List.cons.inj h).2).1.symm (hquote.ne_of_mem_letters hd)
    | number => exact byNumber_append_inj h
    | plain hne => exact absurd (List.cons.inj h).1.symm hne
  | plain hne =>
    cases hd with
    | letter => exact absurd (List.cons.inj h).1 hne
    | number => exact absurd (List.cons.inj h).1 hne
    | plain => exact List.cons.inj h

/-- `text ++ x ≠ quote :: y`: a written character does not begin with the quote. -/
theorem Escaped.ne_quote_cons (hquote : IsQuote quote) (h : Escaped quote c text) :
    text ++ x ≠ quote :: y := by
  intro heq
  cases h with
  | letter => exact hquote.ne_backslash (List.cons.inj heq).1.symm
  | number => exact hquote.ne_backslash (List.cons.inj heq).1.symm
  | plain _ hne => exact hne (List.cons.inj heq).1

/-! ## Quotations -/

/-- **A way to write characters between quotes**: every character is written as a text that stands
for it, by `Escaped quote`. Which characters are escaped without need is left open. -/
structure Writing (quote : Char) where
  /-- How a character is written. -/
  write : Char → Text
  /-- What is written stands for the character. -/
  escaped (c : Char) : Escaped quote c (write c)

/-- **The way in which messages write characters**, `escape quote`. -/
def Writing.ofEscape (quote : Char) : Writing quote := ⟨escape quote, escaped_escape quote⟩

/-- `quotedBy writing text`: a text between double quotes, written in the given way. -/
def quotedBy (writing : Writing '"') (text : Text) : String :=
  String.ofList ('"' :: (text.flatMap writing.write ++ ['"']))

/-- `quotedCharBy writing c`: a character between single quotes, written in the given way. -/
def quotedCharBy (writing : Writing '\'') (c : Char) : String :=
  String.ofList ('\'' :: (writing.write c ++ ['\'']))

/-- **The written characters of a text up to the closing quote tell the text.** Each character may
be written in any way that stands for it. -/
theorem flatMap_append_inj (hquote : IsQuote quote) (writing : Writing quote)
    (h : text.flatMap writing.write ++ quote :: x = other.flatMap writing.write ++ quote :: y) :
    text = other ∧ x = y := by
  induction text generalizing other with
  | nil =>
    cases other with
    | nil => exact ⟨rfl, (List.cons.inj h).2⟩
    | cons d other =>
      rw [List.flatMap_cons, List.append_assoc] at h
      exact absurd h.symm ((writing.escaped d).ne_quote_cons hquote)
  | cons c text ih =>
    rw [List.flatMap_cons, List.append_assoc] at h
    cases other with
    | nil => exact absurd h ((writing.escaped c).ne_quote_cons hquote)
    | cons d other =>
      rw [List.flatMap_cons, List.append_assoc] at h
      obtain ⟨rfl, hrest⟩ := (writing.escaped c).append_inj hquote (writing.escaped d) h
      obtain ⟨rfl, hback⟩ := ih hrest
      exact ⟨rfl, hback⟩

/-- **A quoted text tells the text and what comes after it.** -/
theorem quotedBy_append_inj {writing : Writing '"'}
    (h : (quotedBy writing text).toList ++ x = (quotedBy writing other).toList ++ y) :
    text = other ∧ x = y := by
  simp only [quotedBy, String.toList_ofList, List.cons_append, List.append_assoc,
    List.nil_append] at h
  exact flatMap_append_inj (by decide) writing (List.cons.inj h).2

/-- **A quoted character tells the character and what comes after it.** -/
theorem quotedCharBy_append_inj {writing : Writing '\''}
    (h : (quotedCharBy writing c).toList ++ x = (quotedCharBy writing d).toList ++ y) :
    c = d ∧ x = y := by
  simp only [quotedCharBy, String.toList_ofList, List.cons_append, List.append_assoc,
    List.nil_append] at h
  obtain ⟨rfl, hrest⟩ :=
    (writing.escaped c).append_inj (by decide) (writing.escaped d) (List.cons.inj h).2
  exact ⟨rfl, (List.cons.inj hrest).2⟩

end Text

end RomCompiler
