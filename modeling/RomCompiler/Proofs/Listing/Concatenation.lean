import RomCompiler.Proofs.Listing.Placed

/-! # Listings put together

A listing can be put together of parts, as long as each part ends with the end of a line. The tokens
of the parts come one after the other, and those of a later part are further down by the lines that
have ended before it.
* **`Ended`** — a text has no open line in front of another one.
* **`Ended.openLines_append`** — the lines of the parts come one after the other.
* **`Ended.placedTokens_append`** — and so do their tokens, which move down with the lines.
* **`Ended.outcome_parse_append`** — the result is told from those of the parts;
  **`parse_append_of_ended`** — case by case. -/

namespace RomCompiler.Listing

/-- `Ended front back`: the first text is empty, or it ends with the end of a line, which does not
go on in the second text. -/
def Ended (front back : Text) : Prop :=
  front = [] ∨ front.getLast? = some '\n' ∨ front.getLast? = some '\r' ∧ back.head? ≠ some '\n'

instance (front back : Text) : Decidable (Ended front back) :=
  inferInstanceAs (Decidable (_ ∨ _))

/-- `fault.below count`: the fault `count` lines further down. -/
def Fault.below (count : Nat) (fault : Fault) : Fault := { fault with line := fault.line + count }

variable {markers : Markers} {front back : Text}

namespace Ended

/-! ## The border of two texts -/

/-- `Parted front back`: where a line has ended, no end lies across the border. -/
theorem parted (h : Ended front back) : Parted front back := by
  rintro ⟨hlast, hhead⟩
  rcases h with rfl | hfeed | ⟨-, hnot⟩
  · exact absurd hlast (by simp)
  · rw [hfeed] at hlast
    exact absurd hlast (by decide)
  · exact hnot hhead

/-- `lastLine front = []`: where a line has ended, nothing of the next one is there. -/
theorem lastLine_eq (h : Ended front back) : lastLine front = [] := by
  apply lastLine_eq_nil
  intro c hc
  rcases h with rfl | hfeed | ⟨hreturn, -⟩
  · exact absurd hc (by simp)
  · obtain rfl := Option.some.inj (hfeed.symm.trans hc)
    decide
  · obtain rfl := Option.some.inj (hreturn.symm.trans hc)
    decide

/-! ## Lines and tokens -/

/-- **The lines of the second text come after those of the first one, which are as many as have
ended there.** Nothing comes after their last end. -/
theorem openLines_append (h : Ended front back) :
    ∃ lines, lines.length = endCount front ∧ openLines front = lines ++ [[]] ∧
      openLines (front ++ back) = lines ++ openLines back := by
  obtain ⟨lines, hfront⟩ := exists_openLines_eq front
  rw [h.lastLine_eq] at hfront
  refine ⟨lines, ?_, hfront, ?_⟩
  · have hcount := length_openLines front
    rw [hfront, List.length_append, List.length_singleton] at hcount
    omega
  · obtain ⟨first, others, hback⟩ := List.exists_cons_of_ne_nil (openLines_ne_nil back)
    rw [Listing.openLines_append h.parted hfront hback, hback, List.nil_append]

/-- **The tokens of the second text come after those of the first one, further down by the lines
that have ended there.** -/
theorem placedTokens_append (h : Ended front back) :
    placedTokens markers (front ++ back) = placedTokens markers front ++
      (placedTokens markers back).map fun item => (item.1 + endCount front, item.2) := by
  obtain ⟨lines, hlength, hfront, hboth⟩ := h.openLines_append
  have hempty : placedFrom markers (1 + lines.length) [[]] = [] := by
    rw [placedFrom_cons, tokens_nil]
    rfl
  rw [placedTokens, placedTokens, placedTokens, hboth, hfront, placedFrom_append,
    placedFrom_append, hempty, List.append_nil, placedFrom_add, hlength]

/-! ## Results -/

/-- **The second text is decoded if the first one is, and its bytes come after those.** A fault of
it is further down by the lines that have ended in the first one. -/
theorem outcome_parse_append (h : Ended front back) (markers : Markers) :
    (parse markers (front ++ back)).outcome = (do
      let first ← (parse markers front).outcome
      (first ++ ·) <$> (parse markers back).outcome.mapError (Fault.below (endCount front))) := by
  have hback : decodePlaced ((placedTokens markers back).map fun item =>
      (item.1 + endCount front, item.2)) =
      (decodePlaced (placedTokens markers back)).mapError (Fault.below (endCount front)) := by
    apply decodePlaced_map_of_decode_eq
    intro item
    rfl
  rw [outcome_parse, outcome_parse, outcome_parse, h.placedTokens_append, decodePlaced_append,
    hback]

end Ended

/-- **Decoding goes part by part.** If `Ended front back`, so that the first text ends with the end
of a line, then a fault of `front` is that of `front ++ back`, whatever `back` is. If both have
bytes, the whole has those of the first and then those of the second. And if only the second has a
fault, this is that of the whole, `endCount front` lines further down. -/
theorem parse_append_of_ended (h : Ended front back) (markers : Markers) :
    (∀ fault, (parse markers front).outcome = .error fault →
      (parse markers (front ++ back)).outcome = .error fault) ∧
    (∀ first second, (parse markers front).outcome = .ok first →
      (parse markers back).outcome = .ok second →
      (parse markers (front ++ back)).outcome = .ok (first ++ second)) ∧
    ∀ first fault, (parse markers front).outcome = .ok first →
      (parse markers back).outcome = .error fault →
      (parse markers (front ++ back)).outcome =
        .error { fault with line := fault.line + endCount front } := by
  rw [h.outcome_parse_append markers]
  refine ⟨?_, ?_, ?_⟩
  · intro fault hfront
    rw [hfront]
    rfl
  · intro first second hfront hback
    rw [hfront, hback]
    rfl
  · intro first fault hfront hback
    rw [hfront, hback]
    rfl

/-- Two lines, one ended by a pair and one by a carriage return, before a line that has a fault. -/
theorem parse_append_of_two_lines :
    Ended ['1', '\r', '\n', '2', '\r'] ['\r', 'z'] ∧
    (parse default ['1', '\r', '\n', '2', '\r']).outcome = .ok [1, 2] ∧
    (parse default ['\r', 'z']).outcome = .error ⟨2, ['z'], .malformed⟩ ∧
    (parse default ['1', '\r', '\n', '2', '\r', '\r', 'z']).outcome =
      .error ⟨4, ['z'], .malformed⟩ := by
  have hended : Ended ['1', '\r', '\n', '2', '\r'] ['\r', 'z'] := by decide
  have hfront : (parse default ['1', '\r', '\n', '2', '\r']).outcome = .ok [1, 2] := by rfl
  have hback : (parse default ['\r', 'z']).outcome = .error ⟨2, ['z'], .malformed⟩ := by rfl
  exact ⟨hended, hfront, hback, (parse_append_of_ended hended default).2.2 _ _ hfront hback⟩

end RomCompiler.Listing
