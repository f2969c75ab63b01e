import Mathlib.Data.List.DropRight
import RomCompiler.Text.Blank

/-! # Trimmed texts

Trimming splits a text into three: blanks, a core without blanks at its ends, and blanks again.
* **`dropEndWhile_isPrefix`**, **`filter_dropEndWhile`** — what is left of a list without its end,
  and what is never dropped.
* **`AllBlank`**, **`Tight`** — a text of blanks, and a text without blanks at its ends.
* **`exists_eq_append_trim`** — every text is its trimmed form between two texts of blanks.
* **`trim_append`** — blanks around a text are trimmed away with those of the text itself;
  **`Tight.trim_eq`** — nothing is trimmed from a tight text. -/

namespace RomCompiler

/-- The model's fold from the right drops what the reversed `dropWhile` drops. -/
theorem dropEndWhile_eq_rdropWhile {α : Type} (p : α → Bool) (items : List α) :
    dropEndWhile p items = items.rdropWhile p := by
  induction items with
  | nil => rfl
  | cons item items ih =>
    rw [dropEndWhile_cons, ih]
    -- the first item is in question only if nothing is left after it
    by_cases hall : ∀ x ∈ items, p x
    · have hnil : items.rdropWhile p = [] := List.rdropWhile_eq_nil_iff.mpr hall
      have hrest : (items.reverse).dropWhile p = [] := by
        rw [List.dropWhile_eq_nil_iff]
        intro x hx
        exact hall x (List.mem_reverse.mp hx)
      rw [hnil, List.rdropWhile, List.reverse_cons, List.dropWhile_append, hrest]
      by_cases hitem : p item <;> simp [hitem]
    · have hne : items.rdropWhile p ≠ [] := fun h => hall (List.rdropWhile_eq_nil_iff.mp h)
      have hrest : (items.reverse).dropWhile p ≠ [] := by
        intro h
        exact hne (by rw [List.rdropWhile, h, List.reverse_nil])
      rw [if_neg (by simp [hne]), List.rdropWhile, List.rdropWhile, List.reverse_cons,
        List.dropWhile_append, if_neg (by simpa using hrest), List.reverse_append]
      rfl

/-- **Dropping the end of a list leaves its beginning**: `dropEndWhile p items <+: items`. -/
theorem dropEndWhile_isPrefix {α : Type} (p : α → Bool) (items : List α) :
    dropEndWhile p items <+: items := by
  rw [dropEndWhile_eq_rdropWhile]
  exact List.rdropWhile_prefix p items

/-- What is dropped from the end of a list is nothing that `p` fails for. -/
theorem filter_dropEndWhile {α : Type} (p : α → Bool) (items : List α) :
    (dropEndWhile p items).filter (!p ·) = items.filter (!p ·) := by
  have hdropped : (items.rtakeWhile p).filter (!p ·) = [] := by
    rw [List.filter_eq_nil_iff]
    intro item hitem
    simp [List.mem_rtakeWhile_imp hitem]
  calc
    (dropEndWhile p items).filter (!p ·)
      = (items.rdropWhile p).filter (!p ·) ++ (items.rtakeWhile p).filter (!p ·) := by
        rw [hdropped, List.append_nil, dropEndWhile_eq_rdropWhile]
    _ = items.filter (!p ·) := by
      rw [← List.filter_append, List.rdropWhile_append_rtakeWhile]

namespace Text

/-- `AllBlank text`: all characters of a text are blanks. -/
def AllBlank (text : Text) : Prop := ∀ c ∈ text, isBlank c = true

/-- `Tight text`: a text neither begins nor ends with a blank. -/
def Tight (text : Text) : Prop :=
  (∀ c ∈ text.head?, isBlank c = false) ∧ ∀ c ∈ text.getLast?, isBlank c = false

instance (text : Text) : Decidable (AllBlank text) :=
  decidable_of_iff (text.all isBlank = true) (by simp [AllBlank])

/-- There are no characters in the empty text, so all of them are blanks. -/
@[simp] theorem allBlank_nil : AllBlank [] := List.forall_mem_nil _

/-- `AllBlank (c :: text) ↔ isBlank c = true ∧ AllBlank text`: a text of blanks with one more
character in front is one if the character is a blank. -/
@[simp] theorem allBlank_cons {c : Char} {text : Text} :
    AllBlank (c :: text) ↔ isBlank c = true ∧ AllBlank text :=
  List.forall_mem_cons

/-- `AllBlank (text ++ other) ↔ AllBlank text ∧ AllBlank other`: a text is blank if both of its
parts are. -/
@[simp] theorem allBlank_append {text other : Text} :
    AllBlank (text ++ other) ↔ AllBlank text ∧ AllBlank other :=
  List.forall_mem_append

/-! ## Trimming one end -/

/-- `∃ before, AllBlank before ∧ text = before ++ trimStart text`: trimming the start takes away
blanks only. -/
theorem exists_eq_append_trimStart (text : Text) :
    ∃ before, AllBlank before ∧ text = before ++ trimStart text := by
  refine ⟨text.takeWhile isBlank, ?_, (List.takeWhile_append_dropWhile).symm⟩
  intro c hc
  exact List.mem_takeWhile_imp hc

/-- `∃ after, AllBlank after ∧ text = trimEnd text ++ after`: trimming the end takes away blanks
only. -/
theorem exists_eq_trimEnd_append (text : Text) :
    ∃ after, AllBlank after ∧ text = trimEnd text ++ after := by
  refine ⟨text.rtakeWhile isBlank, ?_, ?_⟩
  · intro c hc
    exact List.mem_rtakeWhile_imp hc
  · rw [trimEnd, dropEndWhile_eq_rdropWhile, List.rdropWhile_append_rtakeWhile]

/-- What is left after the start is trimmed does not begin with a blank. -/
theorem isBlank_of_mem_head?_trimStart {text : Text} {c : Char} (h : c ∈ (trimStart text).head?) :
    isBlank c = false := by
  have hnot := List.head?_dropWhile_not isBlank text
  rw [trimStart] at h
  rw [Option.mem_def.mp h] at hnot
  simpa using hnot

/-- What is left after the end is trimmed does not end with a blank. -/
theorem isBlank_of_mem_getLast?_trimEnd {text : Text} {c : Char}
    (h : c ∈ (trimEnd text).getLast?) : isBlank c = false := by
  rw [trimEnd, dropEndWhile_eq_rdropWhile] at h
  have hne : text.rdropWhile isBlank ≠ [] := by
    intro hnil
    rw [hnil] at h
    exact absurd h (by simp)
  have hnot := List.rdropWhile_last_not isBlank text hne
  rw [List.getLast?_eq_some_getLast hne] at h
  rw [← Option.some.inj h]
  simpa using hnot

/-- `trimStart (before ++ text) = trimStart text`: blanks in front of a text do not change what is
left of its start. -/
theorem trimStart_append {before : Text} (h : AllBlank before) (text : Text) :
    trimStart (before ++ text) = trimStart text :=
  List.dropWhile_append_of_pos h

/-- `trimEnd (text ++ after) = trimEnd text`: blanks after a text do not change what is left of its
end. -/
theorem trimEnd_append {after : Text} (h : AllBlank after) (text : Text) :
    trimEnd (text ++ after) = trimEnd text := by
  have hafter : ∀ c ∈ after.reverse, isBlank c = true := fun c hc => h c (List.mem_reverse.mp hc)
  simp only [trimEnd, dropEndWhile_eq_rdropWhile, List.rdropWhile, List.reverse_append]
  rw [List.dropWhile_append_of_pos hafter]

/-- `trimEnd (text ++ after) = text` for blanks `after`, where `text` does not end with a blank:
this is the one way to take blanks off the end. -/
theorem trimEnd_append_eq_self {text after : Text} (hlast : ∀ c ∈ text.getLast?, isBlank c = false)
    (hafter : AllBlank after) : trimEnd (text ++ after) = text := by
  rw [trimEnd_append hafter, trimEnd, dropEndWhile_eq_rdropWhile, List.rdropWhile_eq_self_iff]
  intro hne
  have hnot := hlast _ (List.getLast?_eq_some_getLast hne)
  simpa using hnot

/-! ## Trimming both ends -/

/-- `trim text = [] ↔ AllBlank text`: a text of which nothing is left is blank throughout. -/
theorem trim_eq_nil_iff {text : Text} : trim text = [] ↔ AllBlank text := by
  constructor
  · intro h
    obtain ⟨before, hbefore, heq⟩ := exists_eq_append_trimStart text
    obtain ⟨after, hafter, heq'⟩ := exists_eq_trimEnd_append (trimStart text)
    rw [trim] at h
    rw [heq, heq', h]
    exact allBlank_append.mpr ⟨hbefore, hafter⟩
  · intro h
    have hnil : trimStart text = [] := List.dropWhile_eq_nil_iff.mpr h
    rw [trim, hnil]
    rfl

/-- **Blanks around a text are trimmed away with its own**:
`trim (before ++ text ++ after) = trim text`. -/
theorem trim_append {before after : Text} (hbefore : AllBlank before) (hafter : AllBlank after)
    (text : Text) : trim (before ++ text ++ after) = trim text := by
  rw [List.append_assoc, trim, trimStart_append hbefore]
  by_cases htext : AllBlank text
  · have hboth : trim (text ++ after) = [] :=
      trim_eq_nil_iff.mpr (allBlank_append.mpr ⟨htext, hafter⟩)
    rw [← trim, hboth, trim_eq_nil_iff.mpr htext]
  · -- the start is trimmed inside of `text`, so the blanks after it stay behind
    have hcut : trimStart (text ++ after) = trimStart text ++ after := by
      rw [trimStart, List.dropWhile_append, if_neg]
      · rfl
      · rw [List.isEmpty_iff, List.dropWhile_eq_nil_iff]
        exact htext
    rw [hcut, trimEnd_append hafter, trim]

/-- `Tight (trim text)`: a trimmed text is tight. -/
theorem tight_trim (text : Text) : Tight (trim text) := by
  constructor
  · intro c hc
    obtain ⟨after, -, heq⟩ := exists_eq_trimEnd_append (trimStart text)
    apply @isBlank_of_mem_head?_trimStart text
    rw [heq, List.head?_append, ← trim, Option.mem_def.mp hc]
    rfl
  · intro c hc
    exact isBlank_of_mem_getLast?_trimEnd hc

/-- **Nothing is trimmed from a tight text**: `trim text = text`. -/
theorem Tight.trim_eq {text : Text} (h : Tight text) : trim text = text := by
  have hstart : trimStart text = text := by
    rcases text with _ | ⟨c, rest⟩
    · rfl
    · have hc : isBlank c = false := h.1 c rfl
      rw [trimStart, List.dropWhile_cons, hc]
      rfl
  have hend := trimEnd_append_eq_self h.2 allBlank_nil
  rw [List.append_nil] at hend
  rw [trim, hstart, hend]

/-- **Every text is its trimmed form between two texts of blanks.** -/
theorem exists_eq_append_trim (text : Text) :
    ∃ before after, AllBlank before ∧ AllBlank after ∧ text = before ++ trim text ++ after := by
  obtain ⟨before, hbefore, hstart⟩ := exists_eq_append_trimStart text
  obtain ⟨after, hafter, hend⟩ := exists_eq_trimEnd_append (trimStart text)
  refine ⟨before, after, hbefore, hafter, ?_⟩
  rw [List.append_assoc, trim, ← hend, ← hstart]

end Text

end RomCompiler
