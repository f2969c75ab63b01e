import RomCompiler.Proofs.Listing.Placed

/-! # The places of tokens

A token stands between a text whose last field has only been blank so far and a text that closes
its field. The tokens that come before it are those of the first text, and the number of its line
counts the lines that have ended in there.
* **`lastField`**, **`Closes`** — the field that a line has come to, and the texts that end it.
* **`Place`** — where a token stands in a listing.
* **`Place.exists_placedTokens_eq`** — a token at its place is one of the listing's tokens.
* **`exists_place`** — each of the listing's tokens has a place. -/

namespace RomCompiler.Listing

open Text

/-- `lastField separator line`: what comes after the last separator of a line. -/
def lastField (separator : Char) (line : Text) : Text := line.rtakeWhile (· != separator)

/-- `Closes markers text`: a text begins with blanks, and after them its field is over. -/
def Closes (markers : Markers) (text : Text) : Prop :=
  ∃ space rest, text = space ++ rest ∧ Space space ∧
    ∀ c ∈ rest.head?, c = markers.separator ∨ c = markers.comment ∨ isLineEnd c = true

/-- **The place of a token**: with `Place markers source before token after` the listing is
`before ++ token ++ after`, and the token is all that is in its field but blanks. -/
structure Place (markers : Markers) (source before token after : Text) : Prop where
  /-- The listing has these parts. -/
  source_eq : source = before ++ token ++ after
  /-- The line of the token has not come to a comment. -/
  before_comment : markers.comment ∉ lastLine before
  /-- The field of the token has only been blank. -/
  opened : AllBlank (lastField markers.separator (lastLine before))
  /-- The token is not empty. -/
  ne_nil : token ≠ []
  /-- There are no blanks at the ends of the token. -/
  tight : Tight token
  /-- The token is inside of a field. -/
  separator_notMem : markers.separator ∉ token
  /-- The token is not in a comment. -/
  comment_notMem : markers.comment ∉ token
  /-- The token is inside of a line. -/
  noEnds : NoEnds token
  /-- The field of the token has nothing more than blanks. -/
  closed : Closes markers after

variable {markers : Markers}

/-! ## The last field of a line -/

/-- The field after a separator does not depend on what is before that. -/
theorem lastField_append_cons (separator : Char) (front back : Text) :
    lastField separator (front ++ separator :: back) = lastField separator back :=
  rtakeWhile_append_cons_of_neg (by simp) front back

/-- More of a field belongs to the last field. -/
theorem lastField_append {separator : Char} {back : Text} (h : separator ∉ back) (front : Text) :
    lastField separator (front ++ back) = lastField separator front ++ back := by
  have hall : ∀ c ∈ back, (c != separator) = true :=
    fun c hc => bne_iff_ne.mpr (ne_of_mem_of_not_mem hc h)
  exact rtakeWhile_append_of_pos hall front

/-- `lastField separator field = field`: a text without separators is its own last field. -/
theorem lastField_of_notMem {separator : Char} {field : Text} (h : separator ∉ field) :
    lastField separator field = field :=
  lastField_append h []

/-- `AllBlank (lastField separator text)`: the last field of a blank text is blank. -/
theorem allBlank_lastField {separator : Char} (hseparator : isBlank separator = false)
    {text : Text} (h : AllBlank text) : AllBlank (lastField separator text) := by
  rw [lastField_of_notMem (notMem_of_allBlank h hseparator)]
  exact h

/-- Where the last field is blank, the tokens of what comes next are those of a text alone. -/
theorem fieldTokens_append_of_opened {separator : Char} (hseparator : isBlank separator = false)
    {front : Text} (h : AllBlank (lastField separator front)) (back : Text) :
    fieldTokens separator (front ++ back) =
      fieldTokens separator front ++ fieldTokens separator back := by
  induction front using fieldInduction separator with
  | last field hfield =>
    rw [lastField_of_notMem hfield] at h
    rw [fieldTokens_blank_append hseparator h, fieldTokens_of_allBlank hseparator h,
      List.nil_append]
  | step field rest _ ih =>
    rw [lastField_append_cons] at h
    rw [List.append_assoc, List.cons_append, fieldTokens_append, fieldTokens_append, ih h,
      List.append_assoc]

/-- A tight text with blanks after it is the first token if its field ends there. -/
theorem fieldTokens_token_append {separator : Char} (hseparator : isBlank separator = false)
    {token space rest : Text} (htight : Tight token) (hne : token ≠ []) (hnot : separator ∉ token)
    (hspace : AllBlank space) (hrest : ∀ c ∈ rest.head?, c = separator) :
    fieldTokens separator (token ++ space ++ rest) = token :: fieldTokens separator rest := by
  have hfield : fieldTokens separator (token ++ space) = [token] := by
    have h := fieldTokens_surrounded hseparator allBlank_nil hspace htight hne hnot
    rwa [List.nil_append] at h
  rcases rest with _ | ⟨c, rest⟩
  · rw [List.append_nil, hfield, fieldTokens_of_allBlank hseparator allBlank_nil]
  · obtain rfl : c = separator := hrest c rfl
    have hempty : fieldTokens c (c :: rest) = fieldTokens c rest := by
      have h := @fieldTokens_append c [] rest
      rwa [fieldTokens_of_allBlank hseparator allBlank_nil, List.nil_append] at h
    rw [fieldTokens_append, hfield, hempty]
    rfl

/-! ## A token at its place is one of the tokens -/

/-- `∀ c ∈ (uncommented markers first).head?, c = markers.separator`: where a field is over, it is
over in the first line, too. -/
theorem head?_uncommented {rest first : Text} {others : List Text}
    (h : ∀ c ∈ rest.head?, c = markers.separator ∨ c = markers.comment ∨ isLineEnd c = true)
    (hlines : openLines rest = first :: others) :
    ∀ c ∈ (uncommented markers first).head?, c = markers.separator := by
  rcases rest with _ | ⟨c, rest⟩
  · rw [openLines_nil] at hlines
    rw [← (List.cons.inj hlines).1]
    simp [uncommented]
  · -- the first line is empty, or else it begins with the separator or the comment marker
    by_cases hc : isLineEnd c = true
    · obtain ⟨lines, hempty⟩ := exists_openLines_end hc rest
      rw [hempty] at hlines
      rw [← (List.cons.inj hlines).1]
      simp [uncommented]
    · have hc' : isLineEnd c = false := by simpa using hc
      obtain ⟨line, lines, hrest⟩ := List.exists_cons_of_ne_nil (openLines_ne_nil rest)
      rw [openLines_cons hc', hrest, List.modifyHead_cons] at hlines
      rw [← (List.cons.inj hlines).1]
      rcases h c rfl with rfl | rfl | hend
      · have hne : (markers.separator != markers.comment) = true :=
          bne_iff_ne.mpr markers.separator_ne_comment
        rw [uncommented, List.takeWhile_cons, if_pos hne]
        simp
      · simp
      · exact absurd hend hc

/-- The tokens of a line with a token at a place in it. -/
theorem tokens_append {front token space rest : Text} (hfront : markers.comment ∉ front)
    (hopened : AllBlank (lastField markers.separator front)) (htight : Tight token)
    (hne : token ≠ []) (hseparator : markers.separator ∉ token)
    (hcomment : markers.comment ∉ token) (hspace : AllBlank space)
    (hrest : ∀ c ∈ (uncommented markers rest).head?, c = markers.separator) :
    tokens markers (front ++ (token ++ space ++ rest)) =
      tokens markers front ++
        token :: fieldTokens markers.separator (uncommented markers rest) := by
  have hblank := markers.isBlank_separator
  have hboth : markers.comment ∉ token ++ space := by
    rw [List.mem_append]
    rintro (hmem | hmem)
    exacts [hcomment hmem, notMem_of_allBlank hspace markers.isBlank_comment hmem]
  rw [tokens_eq_fieldTokens, tokens_eq_fieldTokens, uncommented_append markers hfront,
    uncommented_append markers hboth, uncommented_of_notMem markers hfront,
    fieldTokens_append_of_opened hblank hopened,
    fieldTokens_token_append hblank htight hne hseparator hspace hrest]

/-- **The token at a place comes right after the tokens of the text before it, with the number of
the line that this text has come to.** -/
theorem Place.exists_placedTokens_eq {source before token after : Text}
    (h : Place markers source before token after) :
    ∃ back, placedTokens markers source =
      placedTokens markers before ++ (endCount before + 1, token) :: back := by
  obtain ⟨space, rest, rfl, hspace, hhead⟩ := h.closed
  obtain ⟨first, others, hrest⟩ := List.exists_cons_of_ne_nil (openLines_ne_nil rest)
  obtain ⟨front, hbefore⟩ := exists_openLines_eq before
  have hline : NoEnds (token ++ space) := noEnds_append.mpr ⟨h.noEnds, hspace.noEnds⟩
  have hback : openLines (token ++ space ++ rest) = (token ++ space ++ first) :: others := by
    rw [openLines_append_of_noEnds hline, hrest]
    rfl
  -- the token begins with something other than a line feed, so no end is cut in front of it
  have hparted : Parted before (token ++ space ++ rest) := by
    obtain ⟨c, tail, rfl⟩ := List.exists_cons_of_ne_nil h.ne_nil
    rintro ⟨-, hc⟩
    obtain rfl : c = '\n' := by simpa using hc
    exact absurd (h.noEnds '\n' (by simp)) (by decide)
  have hsource : openLines source =
      front ++ (lastLine before ++ (token ++ space ++ first)) :: others := by
    rw [h.source_eq, List.append_assoc before, ← List.append_assoc token]
    exact openLines_append hparted hbefore hback
  have hnumber : 1 + front.length = endCount before + 1 := by
    rw [← length_openLines, hbefore, List.length_append, List.length_singleton, Nat.add_comm]
  have htokens := tokens_append h.before_comment h.opened h.tight h.ne_nil h.separator_notMem
    h.comment_notMem hspace.blank (head?_uncommented hhead hrest)
  refine ⟨(fieldTokens markers.separator (uncommented markers first)).map
    (endCount before + 1, ·) ++ placedFrom markers (endCount before + 1 + 1) others, ?_⟩
  rw [placedTokens, placedTokens, hsource, hbefore, placedFrom_append, placedFrom_append,
    placedFrom_cons, placedFrom_cons, placedFrom_nil, hnumber, htokens]
  simp

/-! ## Each of the tokens has a place -/

/-- An item of two lists put together belongs to the first or to the second. -/
theorem append_eq_append_cons {α : Type} {first second front back : List α} {item : α}
    (h : first ++ second = front ++ item :: back) :
    (∃ middle, first = front ++ item :: middle ∧ back = middle ++ second) ∨
      ∃ middle, front = first ++ middle ∧ second = middle ++ item :: back := by
  rcases List.append_eq_append_iff.mp h with ⟨middle, hfront, hsecond⟩ | ⟨middle, hfirst, hitem⟩
  · exact Or.inr ⟨middle, hfront, hsecond⟩
  · rcases middle with _ | ⟨head, middle⟩
    · exact Or.inr ⟨[], by simpa using hfirst.symm, hitem.symm⟩
    · obtain ⟨rfl, hback⟩ := List.cons.inj hitem
      exact Or.inl ⟨middle, hfirst, hback⟩

/-- The token of a text without separators stands between blanks. -/
theorem exists_eq_of_fieldTokens {separator : Char} {field token : Text} {front back : List Text}
    (hnot : separator ∉ field) (h : fieldTokens separator field = front ++ token :: back) :
    front = [] ∧ token ≠ [] ∧ Tight token ∧ separator ∉ token ∧
      ∃ before after, field = before ++ token ++ after ∧ AllBlank before ∧ AllBlank after := by
  rw [fieldTokens_of_notMem hnot] at h
  split at h
  · exact absurd h (by simp)
  · next hne =>
    obtain ⟨rfl, htoken⟩ : front = [] ∧ token = trim field := by
      rcases front with _ | ⟨head, front⟩
      · exact ⟨rfl, (List.cons.inj h).1.symm⟩
      · exact absurd (List.cons.inj h).2 (by simp)
    obtain ⟨before, after, hbefore, hafter, heq⟩ := exists_eq_append_trim field
    rw [← htoken] at heq hne
    refine ⟨rfl, hne, htoken ▸ tight_trim field, ?_, before, after, heq, hbefore, hafter⟩
    intro hmem
    rw [heq] at hnot
    exact hnot (by simp [hmem])

/-- Each token of a text without comments has a place between blanks, in a field that is only
blank before them. -/
theorem exists_eq_append_token {separator : Char} (hseparator : isBlank separator = false)
    {text token : Text} {front back : List Text}
    (h : fieldTokens separator text = front ++ token :: back) :
    ∃ before space rest, text = before ++ token ++ (space ++ rest) ∧
      AllBlank (lastField separator before) ∧ fieldTokens separator before = front ∧
      token ≠ [] ∧ Tight token ∧ separator ∉ token ∧ AllBlank space ∧
      ∀ c ∈ rest.head?, c = separator := by
  induction text using fieldInduction separator generalizing front with
  | last field hnot =>
    obtain ⟨rfl, hne, htight, hinside, before, after, rfl, hbefore, hafter⟩ :=
      exists_eq_of_fieldTokens hnot h
    exact ⟨before, after, [], by simp, allBlank_lastField hseparator hbefore,
      fieldTokens_of_allBlank hseparator hbefore, hne, htight, hinside, hafter, by simp⟩
  | step field rest hnot ih =>
    rw [fieldTokens_append] at h
    -- the token is that of the first field, or one of those after the separator
    rcases append_eq_append_cons h with ⟨middle, hfield, -⟩ | ⟨middle, rfl, hrest⟩
    · obtain ⟨rfl, hne, htight, hinside, before, after, rfl, hbefore, hafter⟩ :=
        exists_eq_of_fieldTokens hnot hfield
      exact ⟨before, after, separator :: rest, by simp, allBlank_lastField hseparator hbefore,
        fieldTokens_of_allBlank hseparator hbefore, hne, htight, hinside, hafter, by simp⟩
    · obtain ⟨before, space, after, rfl, hopened, hfront, hrest⟩ := ih hrest
      refine ⟨field ++ separator :: before, space, after, by simp, ?_, ?_, hrest⟩
      · rw [lastField_append_cons]
        exact hopened
      · rw [fieldTokens_append, hfront]

/-- Each token of a line has a place in it. -/
theorem exists_place_of_noEnds {line token : Text} {front back : List Text} (hends : NoEnds line)
    (h : tokens markers line = front ++ token :: back) :
    ∃ before after, Place markers line before token after ∧ NoEnds before ∧
      tokens markers before = front := by
  rw [tokens_eq_fieldTokens] at h
  obtain ⟨before, space, rest, heq, hopened, hfront, hne, htight, hseparator, hspace, hrest⟩ :=
    exists_eq_append_token markers.isBlank_separator h
  have hnot : markers.comment ∉ before ++ token ++ (space ++ rest) := by
    rw [← heq]
    exact notMem_uncommented markers line
  have hnotBefore : markers.comment ∉ before := fun hmem => hnot (by simp [hmem])
  have hnotToken : markers.comment ∉ token := fun hmem => hnot (by simp [hmem])
  -- the place in front of the comment is one in the whole line, because the comment closes it
  obtain ⟨comment, hline, hcomment⟩ : ∃ comment, line = uncommented markers line ++ comment ∧
      ∀ c ∈ comment.head?, c = markers.comment := by
    rcases eq_uncommented_or markers line with hplain | ⟨comment, hcomment⟩
    · exact ⟨[], by rw [← hplain, List.append_nil], by simp⟩
    · exact ⟨markers.comment :: comment, hcomment, by simp⟩
  rw [heq] at hline
  have hparts : NoEnds before ∧ NoEnds token ∧ NoEnds space := by
    rw [hline] at hends
    simp only [noEnds_append] at hends
    exact ⟨hends.1.1.1, hends.1.1.2, hends.1.2.1⟩
  refine ⟨before, space ++ (rest ++ comment), ⟨?_, ?_, ?_, hne, htight, hseparator, hnotToken,
    hparts.2.1, space, rest ++ comment, rfl, ⟨hspace, hparts.2.2⟩, ?_⟩, hparts.1, ?_⟩
  · rw [hline]
    simp
  · rw [lastLine_of_noEnds hparts.1]
    exact hnotBefore
  · rw [lastLine_of_noEnds hparts.1]
    exact hopened
  · intro c hc
    rcases rest with _ | ⟨d, rest⟩
    · exact Or.inr (Or.inl (hcomment c hc))
    · exact Or.inl (hrest c hc)
  · rw [tokens_eq_fieldTokens, uncommented_of_notMem markers hnotBefore]
    exact hfront

/-- `Place markers (line ++ more) before token (after ++ more)`: a token keeps its place when more
lines come after its own. -/
theorem Place.append_right {line before token after more : Text}
    (h : Place markers line before token after) (hmore : ∀ c ∈ more.head?, isLineEnd c = true) :
    Place markers (line ++ more) before token (after ++ more) := by
  obtain ⟨space, rest, rfl, hspace, hrest⟩ := h.closed
  refine { h with source_eq := ?_, closed := ⟨space, rest ++ more, by simp, hspace, ?_⟩ }
  · rw [h.source_eq, List.append_assoc]
  · intro c hc
    rcases rest with _ | ⟨d, rest⟩
    · exact Or.inr (Or.inr (hmore c hc))
    · exact hrest c hc

/-- A token keeps its place when one more line comes before its own. -/
theorem Place.append_left {source before token after terminator : Text} (line : Text)
    (hend : Terminator terminator) (h : Place markers source before token after) :
    Place markers (line ++ terminator ++ source) (line ++ terminator ++ before) token after := by
  refine { h with source_eq := ?_, before_comment := ?_, opened := ?_ }
  · rw [h.source_eq]
    simp
  · rw [lastLine_append_terminator line before hend]
    exact h.before_comment
  · rw [lastLine_append_terminator line before hend]
    exact h.opened

/-- Each token of a line with its number has a place in the line. -/
theorem exists_place_of_map {line token : Text} {number n : Nat} {front back : List (Nat × Text)}
    (hends : NoEnds line)
    (h : (tokens markers line).map (number, ·) = front ++ (n, token) :: back) :
    ∃ before after, Place markers line before token after ∧
      placedFrom markers number (openLines before) = front ∧ n = endCount before + number := by
  obtain ⟨first, others, htokens, rfl, hothers⟩ := List.map_eq_append_iff.mp h
  obtain ⟨head, tail, rfl, hhead, -⟩ := List.map_eq_cons_iff.mp hothers
  obtain ⟨rfl, rfl⟩ := Prod.mk.inj hhead
  obtain ⟨before, after, hplace, hbefore, rfl⟩ := exists_place_of_noEnds hends htokens
  refine ⟨before, after, hplace, ?_, ?_⟩
  · rw [openLines_of_noEnds hbefore, placedFrom_cons, placedFrom_nil, List.append_nil]
  · rw [endCount_of_noEnds hbefore, Nat.zero_add]

/-- Each token of lines that are counted from `number` has a place in their text. -/
theorem exists_place_from {source token : Text} {number n : Nat} {front back : List (Nat × Text)}
    (h : placedFrom markers number (openLines source) = front ++ (n, token) :: back) :
    ∃ before after, Place markers source before token after ∧
      placedFrom markers number (openLines before) = front ∧ n = endCount before + number := by
  induction source using lineInduction generalizing number front with
  | last line hline =>
    rw [openLines_of_noEnds hline, placedFrom_cons, placedFrom_nil, List.append_nil] at h
    exact exists_place_of_map hline h
  | step line terminator rest hline hend hparted ih =>
    rw [openLines_append_terminator hline hend hparted, placedFrom_cons] at h
    rcases append_eq_append_cons h with ⟨middle, hfirst, -⟩ | ⟨middle, rfl, hrest⟩
    · obtain ⟨before, after, hplace, hbefore⟩ := exists_place_of_map hline hfirst
      have hmore : ∀ c ∈ (terminator ++ rest).head?, isLineEnd c = true := by
        cases hend <;> simp [isLineEnd]
      rw [List.append_assoc]
      exact ⟨before, _, hplace.append_right hmore, hbefore⟩
    · obtain ⟨before, after, hplace, hbefore, rfl⟩ := ih hrest
      -- `before` begins like the rest of the text, so the first end is not cut by it
      have hborder : Parted terminator before := by
        rw [hplace.source_eq, List.append_assoc] at hparted
        exact hparted.of_append_right
      refine ⟨line ++ terminator ++ before, after, hplace.append_left line hend, ?_, ?_⟩
      · rw [openLines_append_terminator hline hend hborder, placedFrom_cons, hbefore]
      · rw [endCount_append_terminator hline hend hborder]
        omega

/-- **Each token of a listing has a place: the tokens before it are those of the text before it, and
its line is the one that this text has come to.** -/
theorem exists_place {source token : Text} {n : Nat} {front back : List (Nat × Text)}
    (h : placedTokens markers source = front ++ (n, token) :: back) :
    ∃ before after, Place markers source before token after ∧
      placedTokens markers before = front ∧ n = endCount before + 1 :=
  exists_place_from h

end RomCompiler.Listing
