import RomCompiler.Proofs.Listing.Placed

/-! # Blanks at the end of a listing

A listing that is read without the blanks at its end may lose whole lines, with their ends, and some
of the blanks of the line that is then the last one. None of this has a token in it, and no line
before it has another number.
* **`allBlank_of_mem_openLines`** — the lines of a blank text are blank.
* **`placedTokens_append_blank`** — a blank text has no tokens, wherever a listing ends.
* **`outcome_parse_trimEnd`** — a listing is decoded as it is without the blanks at its end. -/

namespace RomCompiler.Listing

open Text

variable {markers : Markers}

/-- `tokens markers line = []`: a blank line has no tokens. -/
theorem tokens_of_allBlank {line : Text} (h : AllBlank line) : tokens markers line = [] := by
  have htokens := tokens_append_blank markers h []
  rwa [List.nil_append, tokens_nil] at htokens

/-- **The lines of a blank text are blank.** -/
theorem allBlank_of_mem_openLines {text line : Text} (h : AllBlank text)
    (hline : line ∈ openLines text) : AllBlank line := by
  induction text using lineInduction with
  | last whole hwhole =>
    rw [openLines_of_noEnds hwhole, List.mem_singleton] at hline
    rw [hline]
    exact h
  | step first terminator rest hfirst hend hparted ih =>
    rw [allBlank_append, allBlank_append] at h
    rw [openLines_append_terminator hfirst hend hparted, List.mem_cons] at hline
    rcases hline with rfl | hline
    · exact h.1.1
    · exact ih h.2 hline

/-- `placedFrom markers number lines = []`: blank lines have no tokens. -/
theorem placedFrom_of_allBlank {lines : List Text} (h : ∀ line ∈ lines, AllBlank line)
    (number : Nat) : placedFrom markers number lines = [] := by
  induction lines generalizing number with
  | nil => rfl
  | cons line lines ih =>
    have hline : AllBlank line := h line List.mem_cons_self
    have hlines : ∀ other ∈ lines, AllBlank other :=
      fun other hother => h other (List.mem_cons_of_mem line hother)
    rw [placedFrom_cons, tokens_of_allBlank hline, ih hlines]
    rfl

/-- **A blank text after a listing has no tokens: its first line goes on with the last one of the
listing, and its other lines are blank.** -/
theorem placedTokens_append_blank {front after : Text} (h : AllBlank after)
    (hparted : Parted front after) :
    placedTokens markers (front ++ after) = placedTokens markers front := by
  obtain ⟨before, hfront⟩ := exists_openLines_eq front
  obtain ⟨first, others, hafter⟩ := List.exists_cons_of_ne_nil (openLines_ne_nil after)
  have hblank : ∀ line ∈ first :: others, AllBlank line := by
    intro line hline
    rw [← hafter] at hline
    exact allBlank_of_mem_openLines h hline
  have hfirst : AllBlank first := hblank first List.mem_cons_self
  have hothers : ∀ line ∈ others, AllBlank line :=
    fun line hline => hblank line (List.mem_cons_of_mem first hline)
  rw [placedTokens, placedTokens, openLines_append hparted hfront hafter, hfront,
    placedFrom_append, placedFrom_append, placedFrom_cons, placedFrom_cons,
    tokens_append_blank markers hfirst, placedFrom_of_allBlank hothers, placedFrom_nil]

/-- `Parted (trimEnd text) after`: no end of a line is cut where the blanks at the end of a text
begin. -/
theorem parted_trimEnd (text after : Text) : Parted (trimEnd text) after := by
  rintro ⟨hlast, -⟩
  have hblank : isBlank '\r' = false := isBlank_of_mem_getLast?_trimEnd (Option.mem_def.mpr hlast)
  exact absurd hblank (by decide)

/-- **A listing is decoded to the same bytes, or to the same fault in the same line, without the
blanks at its end.** -/
theorem outcome_parse_trimEnd (markers : Markers) (source : Text) :
    (parse markers (trimEnd source)).outcome = (parse markers source).outcome := by
  obtain ⟨after, hblank, hsource⟩ := exists_eq_trimEnd_append source
  have hplaced : placedTokens markers (trimEnd source ++ after) =
      placedTokens markers (trimEnd source) :=
    placedTokens_append_blank hblank (parted_trimEnd source after)
  rw [← hsource] at hplaced
  rw [outcome_parse, outcome_parse, hplaced]

end RomCompiler.Listing
