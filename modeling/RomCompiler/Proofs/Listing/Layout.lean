import Mathlib.Logic.Relation
import RomCompiler.Proofs.Listing.Placed

/-! # Layout and comments

Comments, blanks and repeated separators can be edited freely: a listing keeps its tokens, and so it
keeps its bytes or its fault. The tokens stay in their lines as long as no line is lost, and one is
lost only where all that stands between a carriage return and a line feed is taken away, so that the
two become one end.
* **`LineEdit`**, **`Edit`** — the edits of the layout of a line, and of one line of a text.
* **`LineEdit.tokens_eq`** — a line keeps its tokens.
* **`Edit.openLines_cases`** — what one edit does to the lines of a text; **`Joins`** — the edits
  that lose one.
* **`Moved`**, **`Edit.exists_moved`** — tokens that are the same but for the numbers of their
  lines, and how far an edit of a text moves them.
* **`Agree`**, **`parse_agree_of_edits`** — what any number of edits leaves of the result. -/

namespace RomCompiler.Listing

open Text

/-! ## Edits -/

/-- `Remark markers text`: a comment, or nothing. -/
def Remark (markers : Markers) (text : Text) : Prop := ∀ c ∈ text.head?, c = markers.comment

/-- `Gap separator text`: separators and blanks, in any number and order. -/
def Gap (separator : Char) (text : Text) : Prop := ∀ c ∈ text, c = separator ∨ isBlank c = true

instance (markers : Markers) (text : Text) : Decidable (Remark markers text) :=
  decidable_of_iff (text.head?.all (· == markers.comment) = true) (by cases text <;> simp [Remark])

instance (separator : Char) (text : Text) : Decidable (Gap separator text) :=
  decidable_of_iff (text.all (fun c => c == separator || isBlank c) = true) (by simp [Gap])

/-- **The second text is the first one with its layout edited**: `LineEdit markers old new`, for
what stands in a line. -/
inductive LineEdit (markers : Markers) : Text → Text → Prop
  /-- A comment is replaced, added or taken away. -/
  | comment {fields old new : Text} (h : markers.comment ∉ fields) (hold : Remark markers old)
      (hnew : Remark markers new) : LineEdit markers (fields ++ old) (fields ++ new)
  /-- Blanks are put at the start of a line. -/
  | start {space : Text} (h : AllBlank space) (line : Text) : LineEdit markers line (space ++ line)
  /-- Blanks are put at the end of a line. -/
  | finish {space : Text} (h : AllBlank space) (line : Text) : LineEdit markers line (line ++ space)
  /-- Blanks are put in front of a separator and after it, in a comment or not. -/
  | besideSeparator {before after : Text} (hbefore : AllBlank before) (hafter : AllBlank after)
      (front back : Text) : LineEdit markers (front ++ markers.separator :: back)
        (front ++ before ++ markers.separator :: (after ++ back))
  /-- Blanks are put in front of a comment marker. -/
  | beforeComment {space : Text} (h : AllBlank space) (front back : Text) :
      LineEdit markers (front ++ markers.comment :: back)
        (front ++ space ++ markers.comment :: back)
  /-- A separator outside of the comment is replaced by one or more, with blanks between them. -/
  | separator {front gap : Text} (h : markers.comment ∉ front) (hgap : Gap markers.separator gap)
      (hmem : markers.separator ∈ gap) (back : Text) :
      LineEdit markers (front ++ markers.separator :: back) (front ++ gap ++ back)
  /-- Separators are put at the start of a line. -/
  | opening {separators : Text} (h : ∀ c ∈ separators, c = markers.separator) (line : Text) :
      LineEdit markers line (separators ++ line)
  /-- Separators are put at the end of what is before the comment. -/
  | closing {fields separators remark : Text} (hfields : markers.comment ∉ fields)
      (h : ∀ c ∈ separators, c = markers.separator) (hremark : Remark markers remark) :
      LineEdit markers (fields ++ remark) (fields ++ separators ++ remark)

/-- **The second text is the first one with the layout of one line edited, in either direction** of
`LineEdit`. The line is one of the first text, and what takes its place ends no line either. -/
inductive Edit (markers : Markers) : Text → Text → Prop
  /-- The line is what stands between two ends, which are not halves of the same, or between an end
  and the start or the end of the text. -/
  | ofLine {before line edited after : Text}
      (hbefore : ∀ c ∈ before.getLast?, isLineEnd c = true)
      (hafter : ∀ c ∈ after.head?, isLineEnd c = true) (hparted : Parted before (line ++ after))
      (hline : NoEnds line) (hedited : NoEnds edited)
      (h : LineEdit markers line edited ∨ LineEdit markers edited line) :
      Edit markers (before ++ line ++ after) (before ++ edited ++ after)

/-- **Joined ends**: `source = front ++ \r ++ line ++ \n ++ rest` and
`other = front ++ \r\n ++ rest`. All that stood between a carriage return and a line feed is taken
away, so that the two, which ended a line each, are one end. -/
def Joins (source other : Text) : Prop :=
  ∃ front line rest, line ≠ [] ∧ NoEnds line ∧
    source = front ++ '\r' :: (line ++ '\n' :: rest) ∧ other = front ++ '\r' :: '\n' :: rest

variable {markers : Markers} {separator : Char}

/-! ## Gaps -/

/-- `Gap separator []`: there is nothing in an empty gap. -/
@[simp] theorem gap_nil : Gap separator [] := List.forall_mem_nil _

/-- A gap with one more character in front is one if that is a separator or a blank. -/
@[simp] theorem gap_cons {c : Char} {text : Text} :
    Gap separator (c :: text) ↔ (c = separator ∨ isBlank c = true) ∧ Gap separator text :=
  List.forall_mem_cons

/-- A text is a gap if both of its parts are. -/
@[simp] theorem gap_append {text other : Text} :
    Gap separator (text ++ other) ↔ Gap separator text ∧ Gap separator other :=
  List.forall_mem_append

/-- `Gap separator space`: blanks alone are a gap. -/
theorem gap_of_allBlank {space : Text} (h : AllBlank space) : Gap separator space :=
  fun c hc => Or.inr (h c hc)

/-- `Gap separator separators`: separators alone are a gap. -/
theorem gap_of_forall_eq {separators : Text} (h : ∀ c ∈ separators, c = separator) :
    Gap separator separators :=
  fun c hc => Or.inl (h c hc)

/-- There are no tokens in a gap, so none come before those of a text after it. -/
theorem fieldTokens_gap_append (hseparator : isBlank separator = false) {gap : Text}
    (h : Gap separator gap) (text : Text) :
    fieldTokens separator (gap ++ text) = fieldTokens separator text := by
  induction gap with
  | nil => rfl
  | cons c gap ih =>
    obtain ⟨hc, hgap⟩ := gap_cons.mp h
    rcases hc with rfl | hc
    · have hcut := @fieldTokens_append c [] (gap ++ text)
      rw [fieldTokens_of_allBlank hseparator allBlank_nil, ih hgap] at hcut
      exact hcut
    · have hblank : AllBlank [c] := allBlank_cons.mpr ⟨hc, allBlank_nil⟩
      have hmore := fieldTokens_blank_append hseparator hblank (gap ++ text)
      rw [ih hgap] at hmore
      exact hmore

/-- There are no tokens in a gap, so none come after those of a text before it. -/
theorem fieldTokens_append_gap (hseparator : isBlank separator = false) {gap : Text}
    (h : Gap separator gap) (text : Text) :
    fieldTokens separator (text ++ gap) = fieldTokens separator text := by
  induction gap generalizing text with
  | nil => rw [List.append_nil]
  | cons c gap ih =>
    obtain ⟨hc, hgap⟩ := gap_cons.mp h
    rw [List.append_cons, ih hgap]
    rcases hc with rfl | hc
    · rw [fieldTokens_append, fieldTokens_of_allBlank hseparator allBlank_nil, List.append_nil]
    · have hblank : AllBlank [c] := allBlank_cons.mpr ⟨hc, allBlank_nil⟩
      exact fieldTokens_append_blank hseparator hblank text

/-- A gap with a separator in it is as good as this separator alone. -/
theorem fieldTokens_append_gap_append (hseparator : isBlank separator = false) {gap : Text}
    (h : Gap separator gap) (hmem : separator ∈ gap) (front back : Text) :
    fieldTokens separator (front ++ gap ++ back) =
      fieldTokens separator (front ++ separator :: back) := by
  obtain ⟨before, after, rfl⟩ := List.append_of_mem hmem
  rw [gap_append, gap_cons] at h
  have hcut : front ++ (before ++ separator :: after) ++ back =
      (front ++ before) ++ separator :: (after ++ back) := by
    simp
  rw [hcut, fieldTokens_append, fieldTokens_append, fieldTokens_append_gap hseparator h.1,
    fieldTokens_gap_append hseparator h.2.2]

/-- `markers.comment ∉ front ++ gap`: no comment begins in a gap, and so none does in a text that
has none without the gap. -/
theorem notMem_append_gap {front gap : Text} (hfront : markers.comment ∉ front)
    (hgap : Gap markers.separator gap) : markers.comment ∉ front ++ gap := by
  rw [List.mem_append]
  rintro (hmem | hmem)
  · exact hfront hmem
  · rcases hgap _ hmem with heq | hblank
    · exact markers.separator_ne_comment heq.symm
    · rw [markers.isBlank_comment] at hblank
      exact Bool.noConfusion hblank

/-! ## The tokens of an edited line -/

/-- `tokens markers (front ++ back) = tokens markers front`: what comes after a comment marker is
not looked at. -/
theorem tokens_append_of_mem {front : Text} (h : markers.comment ∈ front) (back : Text) :
    tokens markers (front ++ back) = tokens markers front := by
  obtain ⟨fields, rest, rfl, hfields⟩ := List.eq_append_cons_of_mem h
  rw [tokens_eq_fieldTokens, tokens_eq_fieldTokens, List.append_assoc, List.cons_append,
    uncommented_append markers hfields, uncommented_append markers hfields,
    uncommented_comment_cons, uncommented_comment_cons]

/-- A text without comment markers goes on with the part of the next one before its comment. -/
theorem tokens_append_of_notMem {front : Text} (h : markers.comment ∉ front) (back : Text) :
    tokens markers (front ++ back) =
      fieldTokens markers.separator (front ++ uncommented markers back) := by
  rw [tokens_eq_fieldTokens, uncommented_append markers h]

/-- There are no tokens in a comment. -/
theorem tokens_append_remark {fields remark : Text} (hfields : markers.comment ∉ fields)
    (hremark : Remark markers remark) :
    tokens markers (fields ++ remark) = fieldTokens markers.separator fields := by
  have hnone : uncommented markers remark = [] := by
    rcases remark with _ | ⟨c, remark⟩
    · rfl
    · obtain rfl : c = markers.comment := hremark c rfl
      exact uncommented_comment_cons markers remark
  rw [tokens_append_of_notMem hfields, hnone, List.append_nil]

/-- A gap in front of the comment has no tokens either. -/
theorem tokens_append_gap_append_remark {fields gap remark : Text}
    (hfields : markers.comment ∉ fields) (hgap : Gap markers.separator gap)
    (hremark : Remark markers remark) :
    tokens markers (fields ++ gap ++ remark) = tokens markers (fields ++ remark) := by
  rw [tokens_append_remark (notMem_append_gap hfields hgap) hremark,
    tokens_append_remark hfields hremark, fieldTokens_append_gap markers.isBlank_separator hgap]

/-- `tokens markers (gap ++ line) = tokens markers line`: a gap in front of a line has no tokens. -/
theorem tokens_gap_append {gap : Text} (hgap : Gap markers.separator gap) (line : Text) :
    tokens markers (gap ++ line) = tokens markers line := by
  have hnot : markers.comment ∉ gap := notMem_append_gap List.not_mem_nil hgap
  rw [tokens_append_of_notMem hnot, fieldTokens_gap_append markers.isBlank_separator hgap,
    tokens_eq_fieldTokens]

/-- A separator outside of the comment can be replaced by a gap with a separator in it. -/
theorem tokens_append_gap_append {front gap : Text} (h : markers.comment ∉ front)
    (hgap : Gap markers.separator gap) (hmem : markers.separator ∈ gap) (back : Text) :
    tokens markers (front ++ gap ++ back) =
      tokens markers (front ++ markers.separator :: back) := by
  have hone : markers.comment ∉ front ++ [markers.separator] :=
    notMem_append_gap h (by simp)
  rw [List.append_cons front, tokens_append_of_notMem (notMem_append_gap h hgap),
    tokens_append_of_notMem hone,
    fieldTokens_append_gap_append markers.isBlank_separator hgap hmem, ← List.append_cons]

/-- **A line keeps its tokens when its layout is edited**:
`tokens markers edited = tokens markers line`. -/
theorem LineEdit.tokens_eq {line edited : Text} (h : LineEdit markers line edited) :
    tokens markers edited = tokens markers line := by
  cases h with
  | comment h hold hnew => rw [tokens_append_remark h hnew, tokens_append_remark h hold]
  | start h line => exact tokens_gap_append (gap_of_allBlank h) line
  | finish h line => exact tokens_append_blank markers h line
  | @besideSeparator before after hbefore hafter front back =>
    have hcut : front ++ before ++ markers.separator :: (after ++ back) =
        front ++ (before ++ markers.separator :: after) ++ back := by
      simp
    have hgap : Gap markers.separator (before ++ markers.separator :: after) :=
      gap_append.mpr ⟨gap_of_allBlank hbefore, gap_cons.mpr ⟨Or.inl rfl, gap_of_allBlank hafter⟩⟩
    rw [hcut]
    -- a separator in a comment is not looked at, and any other one is part of a gap now
    by_cases hfront : markers.comment ∈ front
    · rw [List.append_assoc, tokens_append_of_mem hfront, tokens_append_of_mem hfront]
    · exact tokens_append_gap_append hfront hgap (by simp) back
  | beforeComment h front back =>
    by_cases hfront : markers.comment ∈ front
    · rw [List.append_assoc, tokens_append_of_mem hfront, tokens_append_of_mem hfront]
    · exact tokens_append_gap_append_remark hfront (gap_of_allBlank h) (by simp [Remark])
  | separator h hgap hmem back => exact tokens_append_gap_append h hgap hmem back
  | opening h line => exact tokens_gap_append (gap_of_forall_eq h) line
  | closing hfields h hremark =>
    exact tokens_append_gap_append_remark hfields (gap_of_forall_eq h) hremark

/-! ## The tokens of an edited text -/

/-- **The tokens of two texts are the same**, and each one of the second text is in the line that it
has in the first one, or up to `lost` lines before that. -/
def Moved (lost : Nat) (placed moved : List (Nat × Text)) : Prop :=
  List.Forall₂ (fun item other => other.2 = item.2 ∧ other.1 ≤ item.1 ∧ item.1 ≤ other.1 + lost)
    placed moved

/-- `Moved lost placed placed`: all tokens stay in their lines if no line is lost. -/
theorem Moved.refl (lost : Nat) (placed : List (Nat × Text)) : Moved lost placed placed :=
  List.forall₂_same.mpr fun _ _ => ⟨rfl, Nat.le_refl _, Nat.le_add_right _ _⟩

/-- `Moved (first + second) placed moved`: moving twice is moving once, with the lines lost that are
lost in either. -/
theorem Moved.trans {first second : Nat} {placed middle moved : List (Nat × Text)}
    (h : Moved first placed middle) (h' : Moved second middle moved) :
    Moved (first + second) placed moved := by
  induction h generalizing moved with
  | nil =>
    rw [List.forall₂_nil_left_iff.mp h']
    exact .nil
  | cons hitem hrest ih =>
    obtain ⟨other, others, hother, hothers, rfl⟩ := List.forall₂_cons_left_iff.mp h'
    refine .cons ⟨hother.1.trans hitem.1, ?_, ?_⟩ (ih hothers)
    · exact hother.2.1.trans hitem.2.1
    · omega

/-- Where one line without tokens is lost, the tokens after it are one line further up. -/
theorem moved_of_cons {line : Text} (h : tokens markers line = []) (number : Nat)
    (lines : List Text) :
    Moved 1 (placedFrom markers number (line :: lines)) (placedFrom markers number lines) := by
  rw [placedFrom_cons, h, List.map_nil, List.nil_append, placedFrom_add, Moved,
    List.forall₂_map_left_iff, List.forall₂_same]
  rintro ⟨number, token⟩ -
  exact ⟨rfl, Nat.le_succ _, Nat.le_refl _⟩

/-- The lines around a line do not depend on it, as long as no end lies across a border of it. -/
theorem exists_openLines_append {before after : Text}
    (hbefore : ∀ c ∈ before.getLast?, isLineEnd c = true)
    (hafter : ∀ c ∈ after.head?, isLineEnd c = true) :
    ∃ front others, ∀ line, NoEnds line → Parted before (line ++ after) →
      openLines (before ++ line ++ after) = front ++ line :: others := by
  obtain ⟨front, hfront⟩ := exists_openLines_eq before
  obtain ⟨others, hothers⟩ : ∃ others, openLines after = [] :: others := by
    rcases after with _ | ⟨c, after⟩
    · exact ⟨[], openLines_nil⟩
    · exact exists_openLines_end (hafter c rfl) after
  refine ⟨front, others, ?_⟩
  intro line hline hparted
  have hback : openLines (line ++ after) = line :: others := by
    rw [openLines_append_of_noEnds hline, hothers, List.modifyHead_cons, List.append_nil]
  rw [lastLine_eq_nil hbefore] at hfront
  rw [List.append_assoc, openLines_append hparted hfront hback, List.nil_append]

/-- Where a carriage return and a line feed come together, the line that was between them is lost,
and all others are as before. -/
theorem exists_openLines_joined {line : Text} (front rest : Text) (hline : NoEnds line)
    (hne : line ≠ []) :
    ∃ lines, openLines (front ++ '\r' :: (line ++ '\n' :: rest)) =
        lines ++ line :: openLines rest ∧
      openLines (front ++ '\r' :: '\n' :: rest) = lines ++ openLines rest := by
  obtain ⟨before, hfront⟩ := exists_openLines_eq front
  -- no end of a line goes on with a carriage return
  have hopen : ∀ back, Parted front ('\r' :: back) := by
    simp [Parted]
  have hparted : Parted ['\r'] (line ++ '\n' :: rest) := by
    rcases line with _ | ⟨c, line⟩
    · exact absurd rfl hne
    · have hc : isLineEnd c = false := (noEnds_cons.mp hline).1
      rintro ⟨-, hhead⟩
      rw [Option.some.inj hhead] at hc
      exact absurd hc (by decide)
  have hfeed : openLines (line ++ '\n' :: rest) = line :: openLines rest := by
    have hcut := openLines_append_terminator hline .lineFeed (by simp [Parted] : Parted _ rest)
    rwa [List.append_assoc] at hcut
  have hboth : openLines ('\r' :: (line ++ '\n' :: rest)) = [] :: line :: openLines rest := by
    rw [openLines_end (by decide) hparted, hfeed]
  refine ⟨before ++ [lastLine front], ?_, ?_⟩
  · rw [openLines_append (hopen _) hfront hboth, List.append_nil, List.append_cons]
  · rw [openLines_append (hopen _) hfront (openLines_pair rest), List.append_nil, List.append_cons]

/-- **What one edit does to the lines of a text**: it changes one of them and keeps its tokens, or
it takes the whole of one away and joins the two ends around it. -/
theorem Edit.openLines_cases {source other : Text} (h : Edit markers source other) :
    (∃ front line edited back, openLines source = front ++ line :: back ∧
      openLines other = front ++ edited :: back ∧ tokens markers edited = tokens markers line) ∨
    (Joins source other ∧
      ∃ front line back, openLines source = front ++ line :: back ∧
        openLines other = front ++ back ∧ tokens markers line = []) := by
  cases h with
  | @ofLine before line edited after hbefore hafter hparted hline hedited h =>
    have htokens : tokens markers edited = tokens markers line := by
      rcases h with h | h
      exacts [h.tokens_eq, h.tokens_eq.symm]
    by_cases hwhole : Parted before (edited ++ after)
    · obtain ⟨front, others, hlines⟩ := exists_openLines_append hbefore hafter
      exact Or.inl ⟨front, line, edited, others, hlines line hline hparted,
        hlines edited hedited hwhole, htokens⟩
    · -- nothing is left of the line, and its two ends are halves of one end now
      obtain ⟨hlast, rest, hrest⟩ := eq_cons_of_not_parted hwhole
      obtain ⟨front, rfl⟩ := List.getLast?_eq_some_iff.mp hlast
      obtain rfl : edited = [] := by
        rcases edited with _ | ⟨c, edited⟩
        · rfl
        · obtain rfl : c = '\n' := (List.cons.inj hrest).1
          exact absurd (noEnds_cons.mp hedited).1 (by decide)
      obtain rfl : after = '\n' :: rest := hrest
      have hne : line ≠ [] := by
        rintro rfl
        exact hwhole hparted
      obtain ⟨lines, hsource, hother⟩ := exists_openLines_joined front rest hline hne
      have hapart : front ++ ['\r'] ++ line ++ '\n' :: rest =
          front ++ '\r' :: (line ++ '\n' :: rest) := by
        simp
      have hjoined : front ++ ['\r'] ++ [] ++ '\n' :: rest = front ++ '\r' :: '\n' :: rest := by
        simp
      rw [hapart, hjoined]
      exact Or.inr ⟨⟨front, line, rest, hne, hline, rfl, rfl⟩, lines, line, openLines rest,
        hsource, hother, htokens.symm⟩

/-- `endCount other = endCount source` if one line takes the place of another. -/
theorem endCount_eq_of_openLines {source other line edited : Text} {front back : List Text}
    (hsource : openLines source = front ++ line :: back)
    (hother : openLines other = front ++ edited :: back) : endCount other = endCount source := by
  have hsourceCount := length_openLines source
  have hotherCount := length_openLines other
  rw [hsource, List.length_append, List.length_cons] at hsourceCount
  rw [hother, List.length_append, List.length_cons] at hotherCount
  omega

/-- `endCount source = endCount other + 1` if one line is gone. -/
theorem endCount_eq_succ_of_openLines {source other line : Text} {front back : List Text}
    (hsource : openLines source = front ++ line :: back)
    (hother : openLines other = front ++ back) : endCount source = endCount other + 1 := by
  have hsourceCount := length_openLines source
  have hotherCount := length_openLines other
  rw [hsource, List.length_append, List.length_cons] at hsourceCount
  rw [hother, List.length_append] at hotherCount
  omega

/-- `endCount source = endCount other + lost`, where an edit loses no line or one, and the tokens
are `Moved` by as much. -/
theorem Edit.exists_moved {source other : Text} (h : Edit markers source other) :
    ∃ lost, endCount source = endCount other + lost ∧
      Moved lost (placedTokens markers source) (placedTokens markers other) := by
  rcases h.openLines_cases with ⟨front, line, edited, back, hsource, hother, htokens⟩ |
    ⟨-, front, line, back, hsource, hother, htokens⟩
  · refine ⟨0, (endCount_eq_of_openLines hsource hother).symm, ?_⟩
    rw [placedTokens, placedTokens, hsource, hother, placedFrom_append, placedFrom_append,
      placedFrom_cons, placedFrom_cons, htokens]
    exact Moved.refl 0 _
  · -- the line that is gone has no tokens, and those of all lines after it move up
    refine ⟨1, endCount_eq_succ_of_openLines hsource hother, ?_⟩
    rw [placedTokens, placedTokens, hsource, hother, placedFrom_append, placedFrom_append]
    exact List.rel_append (Moved.refl 1 _) (moved_of_cons htokens _ _)

/-- **A line is lost only where two ends are joined**, and then it is one line. -/
theorem Edit.joins_of_endCount_lt {source other : Text} (h : Edit markers source other)
    (hcount : endCount other < endCount source) :
    Joins source other ∧ endCount source = endCount other + 1 := by
  rcases h.openLines_cases with ⟨front, line, edited, back, hsource, hother, -⟩ |
    ⟨hjoins, front, line, back, hsource, hother, -⟩
  · -- an edit that keeps the lines keeps their number
    exact absurd (endCount_eq_of_openLines hsource hother) (Nat.ne_of_lt hcount)
  · exact ⟨hjoins, endCount_eq_succ_of_openLines hsource hother⟩

/-! ## The result of an edited text -/

/-- **Two results are the same, but for the line of a fault**: with `Agree lost result other` it may
be up to `lost` lines before where it is in the first one. -/
inductive Agree (lost : Nat) : Except Fault Bytes → Except Fault Bytes → Prop
  /-- The bytes are the same. -/
  | ok (bytes : Bytes) : Agree lost (.ok bytes) (.ok bytes)
  /-- The token and what is wrong with it are the same. -/
  | error {fault : Fault} {line : Nat} (hle : line ≤ fault.line)
      (hlost : fault.line ≤ line + lost) :
      Agree lost (.error fault) (.error { fault with line := line })

/-- Results without lines lost are the same. -/
theorem Agree.eq {result other : Except Fault Bytes} (h : Agree 0 result other) :
    other = result := by
  cases h with
  | ok bytes => rfl
  | @error fault line hle hlost =>
    obtain rfl : line = fault.line := Nat.le_antisymm hle hlost
    rfl

/-- `Agree lost ((byte :: ·) <$> result) ((byte :: ·) <$> other)`: one more byte in front does not
change how two results agree. -/
theorem Agree.map {lost : Nat} {result other : Except Fault Bytes} (h : Agree lost result other)
    (byte : UInt8) : Agree lost ((byte :: ·) <$> result) ((byte :: ·) <$> other) := by
  cases h with
  | ok bytes => exact .ok (byte :: bytes)
  | error hle hlost => exact .error hle hlost

/-- `Agree lost (decodePlaced placed) (decodePlaced moved)`: tokens that are moved have the same
result. -/
theorem Moved.agree {lost : Nat} {placed moved : List (Nat × Text)} (h : Moved lost placed moved) :
    Agree lost (decodePlaced placed) (decodePlaced moved) := by
  induction h with
  | nil => exact .ok []
  | @cons item other rest others hitem _ ih =>
    obtain ⟨number, token⟩ := item
    obtain ⟨line, token'⟩ := other
    obtain ⟨rfl, hle, hlost⟩ := hitem
    -- the first token that is not a byte is at the same place among the tokens
    rcases htoken : Token.decode token' with kind | byte
    · rw [decodePlaced_cons_of_error htoken, decodePlaced_cons_of_error htoken]
      exact .error hle hlost
    · rw [decodePlaced_cons_of_ok htoken, decodePlaced_cons_of_ok htoken]
      exact ih.map byte

/-- Any number of edits loses some lines, and the tokens move with the lines. -/
theorem exists_moved_of_edits {source other : Text}
    (h : Relation.ReflTransGen (Edit markers) source other) :
    ∃ lost, endCount source = endCount other + lost ∧
      Moved lost (placedTokens markers source) (placedTokens markers other) := by
  induction h with
  | refl => exact ⟨0, rfl, Moved.refl 0 _⟩
  | tail _ hedit ih =>
    obtain ⟨first, hfirst, hmoved⟩ := ih
    obtain ⟨second, hsecond, hmoved'⟩ := hedit.exists_moved
    exact ⟨first + second, by omega, hmoved.trans hmoved'⟩

/-- **Comments and layout do not influence the result.** However often an `Edit` is made, no line is
added, and if `endCount other = endCount source` the result is the same. Where lines are lost, the
results `Agree`: the bytes are the same, or the fault has the same token and kind and its line is at
most so many lines further up. A single edit loses a line only if it `Joins` two ends, that is if it
takes away all that stood between a carriage return and a line feed. -/
theorem parse_agree_of_edits {source other : Text}
    (h : Relation.ReflTransGen (Edit markers) source other) :
    (endCount other = endCount source →
      (parse markers other).outcome = (parse markers source).outcome) ∧
    endCount other ≤ endCount source ∧
    Agree (endCount source - endCount other) (parse markers source).outcome
      (parse markers other).outcome ∧
    ∀ before after, Edit markers before after → endCount after < endCount before →
      Joins before after ∧ endCount before = endCount after + 1 := by
  obtain ⟨lost, hcount, hmoved⟩ := exists_moved_of_edits h
  have hlost : endCount source - endCount other = lost := by omega
  have hagree : Agree (endCount source - endCount other) (parse markers source).outcome
      (parse markers other).outcome := by
    rw [outcome_parse, outcome_parse, hlost]
    exact hmoved.agree
  refine ⟨?_, ?_, hagree, fun _ _ hedit hfewer => hedit.joins_of_endCount_lt hfewer⟩
  · intro hsame
    rw [hsame, Nat.sub_self] at hagree
    exact hagree.eq
  · omega

/-- A comment is taken away, a separator is repeated, and one is put at the start of the line of the
fault, which stays where it is. -/
theorem parse_agree_of_three_edits :
    Relation.ReflTransGen (Edit default) ['1', ',', '2', ';', 'a', '\r', '\n', 'z']
      ['1', ' ', ',', ',', '2', '\r', '\n', ',', 'z'] ∧
    (parse default ['1', ' ', ',', ',', '2', '\r', '\n', ',', 'z']).outcome =
      (parse default ['1', ',', '2', ';', 'a', '\r', '\n', 'z']).outcome := by
  have hcomment : Edit default ['1', ',', '2', ';', 'a', '\r', '\n', 'z']
      ['1', ',', '2', '\r', '\n', 'z'] := by
    refine @Edit.ofLine default [] ['1', ',', '2', ';', 'a'] ['1', ',', '2'] ['\r', '\n', 'z']
      (by simp) (by simp [isLineEnd]) (by decide) (by decide) (by decide) (.inl ?_)
    exact @LineEdit.comment default ['1', ',', '2'] [';', 'a'] [] (by decide) (by decide)
      (by decide)
  have hseparator : Edit default ['1', ',', '2', '\r', '\n', 'z']
      ['1', ' ', ',', ',', '2', '\r', '\n', 'z'] := by
    refine @Edit.ofLine default [] ['1', ',', '2'] ['1', ' ', ',', ',', '2'] ['\r', '\n', 'z']
      (by simp) (by simp [isLineEnd]) (by decide) (by decide) (by decide) (.inl ?_)
    exact @LineEdit.separator default ['1'] [' ', ',', ','] (by decide) (by decide) (by decide)
      ['2']
  have hopening : Edit default ['1', ' ', ',', ',', '2', '\r', '\n', 'z']
      ['1', ' ', ',', ',', '2', '\r', '\n', ',', 'z'] := by
    refine @Edit.ofLine default ['1', ' ', ',', ',', '2', '\r', '\n'] ['z'] [',', 'z'] []
      (by simp [isLineEnd]) (by simp) (by decide) (by decide) (by decide) (.inl ?_)
    exact @LineEdit.opening default [','] (List.forall_mem_singleton.mpr rfl) ['z']
  have hedits := ((Relation.ReflTransGen.single hcomment).tail hseparator).tail hopening
  exact ⟨hedits, (parse_agree_of_edits hedits).1 (by decide)⟩

/-- A line is lost when the blank between a carriage return and a line feed is taken away: the fault
after it is then in the second line and no more in the third. -/
theorem parse_of_joined_ends :
    Edit default ['\r', ' ', '\n', 'z', 'z'] ['\r', '\n', 'z', 'z'] ∧
    (parse default ['\r', ' ', '\n', 'z', 'z']).outcome =
      .error ⟨3, ['z', 'z'], .malformed⟩ ∧
    (parse default ['\r', '\n', 'z', 'z']).outcome = .error ⟨2, ['z', 'z'], .malformed⟩ := by
  refine ⟨?_, rfl, rfl⟩
  refine @Edit.ofLine default ['\r'] [' '] [] ['\n', 'z', 'z'] (by simp [isLineEnd])
    (by simp [isLineEnd]) (by decide) (by decide) (by decide) (.inr ?_)
  exact @LineEdit.start default [' '] (by decide) []

end RomCompiler.Listing
