import RomCompiler.Listing.Parse
import RomCompiler.Proofs.Listing.Line
import RomCompiler.Proofs.Listing.Token
import RomCompiler.Proofs.Text.Trim

/-! # The fields of a line

The part of a line before its comment is cut at each separator into fields, and the tokens are what
is left of the fields without blanks. Since no marker is a blank, it makes no difference whether
blanks are trimmed before or after the cuts.
* **`fieldTokens`**, **`uncommented`** — the tokens of a text without comments, and the part of a
  line before its comment.
* **`Space`** — blanks inside of a line.
* **`fieldTokens_append`**, **`fieldInduction`** — a text is a field, or a field with a separator
  before a shorter text.
* **`tokens_eq_fieldTokens`** — the tokens of a line, without the trims around the cuts.
* **`fieldTokens_surrounded`** — a field with a token in it gives this token. -/

namespace RomCompiler.Listing

open Text

/-- `fieldTokens separator text`: the texts between separators without blanks at their ends, where
anything is left of them. -/
def fieldTokens (separator : Char) (text : Text) : List Text :=
  ((text.splitOn separator).map trim).filter (!·.isEmpty)

/-- `uncommented markers line`: the part of a line before its comment. -/
def uncommented (markers : Markers) (line : Text) : Text := line.takeWhile (· != markers.comment)

/-- **Blanks inside of a line.** -/
structure Space (text : Text) : Prop where
  /-- There is nothing but blanks. -/
  blank : AllBlank text
  /-- No blank ends a line. -/
  noEnds : NoEnds text

/-! ## The characters of markers, ends and tokens -/

/-- A character that can be a marker is not a blank. -/
theorem isBlank_of_free {c : Char} (h : isReserved c = false) : isBlank c = false := by
  simp only [isReserved, Bool.or_eq_false_iff] at h
  exact h.1.1.1

/-- The ends of lines are blanks. -/
theorem isBlank_of_isLineEnd {c : Char} (h : isLineEnd c = true) : isBlank c = true := by
  have hcases : c = '\r' ∨ c = '\n' := by simpa [isLineEnd] using h
  rcases hcases with rfl | rfl <;> decide

/-- A character that is not a blank does not end a line. -/
theorem isLineEnd_of_not_isBlank {c : Char} (h : isBlank c = false) : isLineEnd c = false := by
  rcases hc : isLineEnd c with _ | _
  · rfl
  · rw [isBlank_of_isLineEnd hc] at h
    exact Bool.noConfusion h

/-- `isBlank markers.separator = false`: the separator is not a blank. -/
theorem Markers.isBlank_separator (markers : Markers) : isBlank markers.separator = false :=
  isBlank_of_free markers.separator_free

/-- `isBlank markers.comment = false`: the comment marker is not a blank. -/
theorem Markers.isBlank_comment (markers : Markers) : isBlank markers.comment = false :=
  isBlank_of_free markers.comment_free

/-- A digit is not a blank. -/
theorem isBlank_of_hexDigit {c : Char} {d : Nat} (h : Numeral.HexDigit c d) :
    isBlank c = false := by
  rcases h with @⟨d, h⟩ | @⟨d, h⟩ | @⟨d, h⟩ <;> interval_cases d <;> decide

/-- `∃ d, Numeral.HexDigit c d`: digits are made of digits. -/
theorem exists_hexDigit_of_mem {text : Text} {n : Nat} (h : Numeral.Digits 16 text n) {c : Char}
    (hc : c ∈ text) : ∃ d, Numeral.HexDigit c d :=
  Numeral.isHexDigit_iff.mp (h.isHexDigit_of_mem hc)

/-- `(∃ d, Numeral.HexDigit c d) ∨ c = 'x' ∨ c = 'X'`: the characters that a number is written with.
-/
theorem Token.Written.cases_of_mem {token : Text} {n : Nat} (h : Token.Written token n) {c : Char}
    (hc : c ∈ token) : (∃ d, Numeral.HexDigit c d) ∨ c = 'x' ∨ c = 'X' := by
  have hzero : ∃ d, Numeral.HexDigit '0' d := ⟨0, Numeral.hexDigit?_eq_some_iff.mp (by decide)⟩
  cases h with
  | bare _ h => exact Or.inl (exists_hexDigit_of_mem h hc)
  | small _ h =>
    rcases List.mem_cons.mp hc with rfl | hc
    · exact Or.inl hzero
    · rcases List.mem_cons.mp hc with rfl | hc
      · exact Or.inr (Or.inl rfl)
      · exact Or.inl (exists_hexDigit_of_mem h hc)
  | capital _ h =>
    rcases List.mem_cons.mp hc with rfl | hc
    · exact Or.inl hzero
    · rcases List.mem_cons.mp hc with rfl | hc
      · exact Or.inr (Or.inr rfl)
      · exact Or.inl (exists_hexDigit_of_mem h hc)

/-- No character of a number can be a marker. -/
theorem Token.Written.isReserved_of_mem {token : Text} {n : Nat} (h : Token.Written token n)
    {c : Char} (hc : c ∈ token) : isReserved c = true := by
  rcases h.cases_of_mem hc with hdigit | rfl | rfl
  · simp [isReserved, Numeral.isHexDigit_iff.mpr hdigit]
  · decide
  · decide

/-- No character of a number is a blank. -/
theorem Token.Written.isBlank_of_mem {token : Text} {n : Nat} (h : Token.Written token n) {c : Char}
    (hc : c ∈ token) : isBlank c = false := by
  rcases h.cases_of_mem hc with ⟨d, hdigit⟩ | rfl | rfl
  · exact isBlank_of_hexDigit hdigit
  · decide
  · decide

/-- A number has no blanks at its ends. -/
theorem Token.Written.tight {token : Text} {n : Nat} (h : Token.Written token n) : Tight token :=
  ⟨fun _ hc => h.isBlank_of_mem (List.mem_of_mem_head? hc),
    fun _ hc => h.isBlank_of_mem (List.mem_of_getLast? hc)⟩

/-- A number ends no line. -/
theorem Token.Written.noEnds {token : Text} {n : Nat} (h : Token.Written token n) : NoEnds token :=
  fun _ hc => isLineEnd_of_not_isBlank (h.isBlank_of_mem hc)

/-- A number is not the empty text. -/
theorem Token.Written.ne_nil {token : Text} {n : Nat} (h : Token.Written token n) : token ≠ [] := by
  cases h with
  | bare hne _ => exact hne
  | small _ _ => exact List.cons_ne_nil _ _
  | capital _ _ => exact List.cons_ne_nil _ _

/-- A character that can be a marker is not in a number. -/
theorem Token.Written.notMem {token : Text} {n : Nat} (h : Token.Written token n) {c : Char}
    (hc : isReserved c = false) : c ∉ token := by
  intro hmem
  rw [h.isReserved_of_mem hmem] at hc
  exact Bool.noConfusion hc

/-- A character that is not a blank is not in a text of blanks. -/
theorem notMem_of_allBlank {text : Text} (h : AllBlank text) {c : Char} (hc : isBlank c = false) :
    c ∉ text := by
  intro hmem
  rw [h c hmem] at hc
  exact Bool.noConfusion hc

/-- `Space before ∧ Space after`: a text of blanks that is part of a line is a space. -/
theorem space_of_append {before token after : Text} (hbefore : AllBlank before)
    (hafter : AllBlank after) (hends : NoEnds (before ++ token ++ after)) :
    Space before ∧ Space after := by
  rw [noEnds_append, noEnds_append] at hends
  exact ⟨⟨hbefore, hends.1.1⟩, ⟨hafter, hends.2⟩⟩

/-! ## One field after the other -/

variable {separator : Char}

/-- **A separator has the tokens of what is before it and then those of what is after it.** -/
theorem fieldTokens_append (front back : Text) :
    fieldTokens separator (front ++ separator :: back) =
      fieldTokens separator front ++ fieldTokens separator back := by
  rw [fieldTokens, List.splitOn_append_cons_self, List.map_append, List.filter_append]
  rfl

/-- A text without separators has one token, if there is anything but blanks. -/
theorem fieldTokens_of_notMem {field : Text} (h : separator ∉ field) :
    fieldTokens separator field = if trim field = [] then [] else [trim field] := by
  rw [fieldTokens, List.splitOn_eq_singleton h, List.map_singleton]
  rcases trim field with _ | ⟨c, rest⟩ <;> simp

/-- **What holds of a text without separators, and of a field with a separator before any text of
which it holds, holds of every text.** -/
@[elab_as_elim] theorem fieldInduction (separator : Char) {motive : Text → Prop}
    (last : ∀ field, separator ∉ field → motive field)
    (step : ∀ field rest, separator ∉ field → motive rest → motive (field ++ separator :: rest))
    (text : Text) : motive text := by
  by_cases h : separator ∈ text
  · obtain ⟨field, rest, heq, hfield⟩ := List.eq_append_cons_of_mem h
    have hshorter : rest.length < text.length := by
      rw [heq]
      simp
      omega
    rw [heq]
    exact step field rest hfield (fieldInduction separator last step rest)
  · exact last text h
termination_by text.length

/-- Blanks in front of a text do not change its tokens. -/
theorem fieldTokens_blank_append (hseparator : isBlank separator = false) {before : Text}
    (h : AllBlank before) (text : Text) :
    fieldTokens separator (before ++ text) = fieldTokens separator text := by
  have htrim : ∀ field, trim (before ++ field) = trim field := by
    intro field
    simpa using trim_append h allBlank_nil field
  have hbefore : separator ∉ before := notMem_of_allBlank h hseparator
  induction text using fieldInduction separator with
  | last field hfield =>
    have hboth : separator ∉ before ++ field := by simp [hbefore, hfield]
    rw [fieldTokens_of_notMem hboth, fieldTokens_of_notMem hfield, htrim]
  | step field rest hfield _ =>
    have hboth : separator ∉ before ++ field := by simp [hbefore, hfield]
    rw [← List.append_assoc, fieldTokens_append, fieldTokens_append, fieldTokens_of_notMem hboth,
      fieldTokens_of_notMem hfield, htrim]

/-- Blanks after a text do not change its tokens. -/
theorem fieldTokens_append_blank (hseparator : isBlank separator = false) {after : Text}
    (h : AllBlank after) (text : Text) :
    fieldTokens separator (text ++ after) = fieldTokens separator text := by
  have hafter : separator ∉ after := notMem_of_allBlank h hseparator
  induction text using fieldInduction separator with
  | last field hfield =>
    have hboth : separator ∉ field ++ after := by simp [hafter, hfield]
    have htrim : trim (field ++ after) = trim field := by
      simpa using trim_append allBlank_nil h field
    rw [fieldTokens_of_notMem hboth, fieldTokens_of_notMem hfield, htrim]
  | step field rest _ ih =>
    rw [List.append_assoc, List.cons_append, fieldTokens_append, fieldTokens_append, ih]

/-- `fieldTokens separator text = []`: there are no tokens in blanks. -/
theorem fieldTokens_of_allBlank (hseparator : isBlank separator = false) {text : Text}
    (h : AllBlank text) : fieldTokens separator text = [] := by
  rw [fieldTokens_of_notMem (notMem_of_allBlank h hseparator), if_pos (trim_eq_nil_iff.mpr h)]

/-- `fieldTokens separator (trim text) = fieldTokens separator text`: a text with blanks around it
has the tokens that it has trimmed. -/
theorem fieldTokens_trim (hseparator : isBlank separator = false) (text : Text) :
    fieldTokens separator (trim text) = fieldTokens separator text := by
  obtain ⟨before, after, hbefore, hafter, heq⟩ := exists_eq_append_trim text
  have hboth : fieldTokens separator (before ++ trim text ++ after) =
      fieldTokens separator (trim text) := by
    rw [fieldTokens_append_blank hseparator hafter, fieldTokens_blank_append hseparator hbefore]
  rw [← heq] at hboth
  exact hboth.symm

/-- **A tight text between blanks is a field with one token**:
`fieldTokens separator (before ++ token ++ after) = [token]`. -/
theorem fieldTokens_surrounded {before token after : Text} (hseparator : isBlank separator = false)
    (hbefore : AllBlank before) (hafter : AllBlank after) (htoken : Tight token) (hne : token ≠ [])
    (hnot : separator ∉ token) :
    fieldTokens separator (before ++ token ++ after) = [token] := by
  rw [fieldTokens_append_blank hseparator hafter, fieldTokens_blank_append hseparator hbefore,
    fieldTokens_of_notMem hnot, htoken.trim_eq, if_neg hne]

/-! ## The tokens of a line -/

variable (markers : Markers)

/-- `uncommented markers line = line`: a line without comment markers has no comment. -/
theorem uncommented_of_notMem {line : Text} (h : markers.comment ∉ line) :
    uncommented markers line = line := by
  have hall : ∀ c ∈ line, (c != markers.comment) = true :=
    fun c hc => bne_iff_ne.mpr (ne_of_mem_of_not_mem hc h)
  exact List.takeWhile_eq_self_iff.mpr hall

/-- What comes before a comment stays whatever comes after it. -/
theorem uncommented_append {front : Text} (h : markers.comment ∉ front) (back : Text) :
    uncommented markers (front ++ back) = front ++ uncommented markers back := by
  have hall : ∀ c ∈ front, (c != markers.comment) = true :=
    fun c hc => bne_iff_ne.mpr (ne_of_mem_of_not_mem hc h)
  exact List.takeWhile_append_of_pos hall

/-- `uncommented markers (markers.comment :: comment) = []`: a comment marker and all after it is a
comment. -/
@[simp] theorem uncommented_comment_cons (comment : Text) :
    uncommented markers (markers.comment :: comment) = [] := by
  simp [uncommented]

/-- `markers.comment ∉ uncommented markers line`: no comment begins in what is before the comment.
-/
theorem notMem_uncommented (line : Text) : markers.comment ∉ uncommented markers line := by
  intro h
  simpa using List.mem_takeWhile_imp h

/-- A line is what is before its comment, or has a comment after that. -/
theorem eq_uncommented_or (line : Text) :
    line = uncommented markers line ∨
      ∃ comment, line = uncommented markers line ++ markers.comment :: comment := by
  by_cases h : markers.comment ∈ line
  · obtain ⟨front, comment, heq, hfront⟩ := List.eq_append_cons_of_mem h
    right
    refine ⟨comment, ?_⟩
    have hcut : uncommented markers line = front := by
      rw [heq, uncommented_append markers hfront, uncommented_comment_cons, List.append_nil]
    rw [hcut, heq]
  · exact Or.inl (uncommented_of_notMem markers h).symm

/-- **The tokens of a line are those of what is before its comment.** -/
theorem tokens_eq_fieldTokens (line : Text) :
    tokens markers line = fieldTokens markers.separator (uncommented markers line) :=
  fieldTokens_trim markers.isBlank_separator _

/-- `tokens markers (trim line) = tokens markers line`: trimming a line does not change its tokens,
also where it cuts into the comment. -/
theorem tokens_trim (line : Text) : tokens markers (trim line) = tokens markers line := by
  obtain ⟨before, after, hbefore, hafter, heq⟩ := exists_eq_append_trim line
  have hseparator := markers.isBlank_separator
  have hnot : ∀ {blanks : Text}, AllBlank blanks → markers.comment ∉ blanks :=
    fun h => notMem_of_allBlank h markers.isBlank_comment
  have hcut : tokens markers (before ++ (trim line ++ after)) =
      fieldTokens markers.separator (uncommented markers (trim line ++ after)) := by
    rw [tokens_eq_fieldTokens, uncommented_append markers (hnot hbefore),
      fieldTokens_blank_append hseparator hbefore]
  rw [← List.append_assoc, ← heq] at hcut
  rw [hcut, tokens_eq_fieldTokens]
  -- blanks after the line are part of its last field, or else of its comment
  rcases eq_uncommented_or markers (trim line) with hplain | ⟨comment, hcomment⟩
  · have hnotMem : markers.comment ∉ trim line := by
      rw [hplain]
      exact notMem_uncommented markers _
    rw [uncommented_append markers hnotMem, uncommented_of_notMem markers hnotMem,
      uncommented_of_notMem markers (hnot hafter), fieldTokens_append_blank hseparator hafter]
  · rw [hcomment, List.append_assoc, List.cons_append,
      uncommented_append markers (notMem_uncommented markers _),
      uncommented_append markers (notMem_uncommented markers _), uncommented_comment_cons,
      uncommented_comment_cons]

/-- `tokens markers (line ++ after) = tokens markers line`: blanks after a line do not change its
tokens. -/
theorem tokens_append_blank {after : Text} (h : AllBlank after) (line : Text) :
    tokens markers (line ++ after) = tokens markers line := by
  have htrim := trim_append allBlank_nil h line
  rw [List.nil_append] at htrim
  rw [← tokens_trim, htrim, tokens_trim]

end RomCompiler.Listing
