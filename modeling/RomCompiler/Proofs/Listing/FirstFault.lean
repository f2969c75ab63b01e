import Mathlib.Data.Set.Subsingleton
import RomCompiler.Proofs.Listing.Place

/-! # The fault of a listing

A listing that is not accepted has a fault, and this is the first of its tokens that is not a byte.
Where the token stands can be told from the characters of the listing alone: what is before it is
accepted, and what is after it does not matter once the field of the token is over.
* **`FirstFault`** — a fault with the texts before and after its token.
* **`FirstFault.outcome_parse_eq`** — such a fault is what decoding the listing ends with.
* **`parse_eq_error_iff_firstFault`** — there are no other faults, and none has two places. -/

namespace RomCompiler.Listing

open Text

/-- **The first token of a listing that is not a byte, at its place in the listing**: with
`FirstFault markers source before fault after`, the listing is `before ++ fault.token ++ after`. -/
structure FirstFault (markers : Markers) (source before : Text) (fault : Fault)
    (after : Text) : Prop extends Place markers source before fault.token after where
  /-- What is before the token is accepted. -/
  accepted : ∃ bytes, (parse markers before).outcome = .ok bytes
  /-- The number of the line counts the ends of lines before the token. -/
  line_eq : fault.line = endCount before + 1
  /-- The token is not a number, or it is one that does not fit in a byte. -/
  wrong : fault.kind = .malformed ∧ (¬ ∃ n, Token.Written fault.token n) ∨
    fault.kind = .tooLarge ∧ ∃ n, Token.Written fault.token n ∧ 0xff < n

variable {markers : Markers}

/-- A token is decoded to a fault in just two cases. -/
theorem decode_eq_error_iff {token : Text} {kind : Token.Fault} :
    Token.decode token = .error kind ↔
      kind = .malformed ∧ (¬ ∃ n, Token.Written token n) ∨
        kind = .tooLarge ∧ ∃ n, Token.Written token n ∧ 0xff < n := by
  rw [← Token.decode_eq_malformed_iff, ← Token.decode_eq_tooLarge_iff]
  cases kind <;> simp

/-- **The first fault is what decoding the listing ends with**:
`(parse markers source).outcome = .error fault`. -/
theorem FirstFault.outcome_parse_eq {source before after : Text} {fault : Fault}
    (h : FirstFault markers source before fault after) :
    (parse markers source).outcome = .error fault := by
  obtain ⟨bytes, hbytes⟩ := h.accepted
  obtain ⟨back, hback⟩ := h.toPlace.exists_placedTokens_eq
  rw [outcome_parse] at hbytes
  rw [outcome_parse, decodePlaced_eq_error_iff]
  refine ⟨placedTokens markers before, back, bytes, ?_, hbytes, decode_eq_error_iff.mpr h.wrong⟩
  rw [hback, h.line_eq]

/-- `∃ before after, FirstFault markers source before fault after`: decoding ends with a fault only
at its place. -/
theorem exists_firstFault {source : Text} {fault : Fault}
    (h : (parse markers source).outcome = .error fault) :
    ∃ before after, FirstFault markers source before fault after := by
  rw [outcome_parse, decodePlaced_eq_error_iff] at h
  obtain ⟨front, back, bytes, hplaced, hfront, hkind⟩ := h
  obtain ⟨before, after, hplace, hbefore, hline⟩ := exists_place hplaced
  refine ⟨before, after, hplace, ⟨bytes, ?_⟩, hline, decode_eq_error_iff.mp hkind⟩
  rw [outcome_parse, hbefore, hfront]

/-! ## A fault has one place -/

/-- `Closes markers front`: a text that closes a field does so wherever it is cut. -/
theorem Closes.of_append {front back : Text} (h : Closes markers (front ++ back)) :
    Closes markers front := by
  obtain ⟨space, rest, heq, hspace, hrest⟩ := h
  rcases List.append_eq_append_iff.mp heq with ⟨middle, rfl, -⟩ | ⟨middle, rfl, rfl⟩
  · have hfront : Space front :=
      ⟨(allBlank_append.mp hspace.blank).1, (noEnds_append.mp hspace.noEnds).1⟩
    exact ⟨front, [], by simp, hfront, by simp⟩
  · refine ⟨space, middle, rfl, hspace, ?_⟩
    intro c hc
    apply hrest
    rw [List.head?_append, Option.mem_def.mp hc]
    rfl

/-- Two places of faults are the same if the text before one goes on to the text before the other:
were it longer, it would have the first token in it, whole or in part. -/
theorem FirstFault.eq_nil {source before middle after last : Text} {fault other : Fault}
    (h : FirstFault markers source before fault after)
    (hother : FirstFault markers source (before ++ middle) other last) : middle = [] := by
  by_contra hne
  have hparts : fault.token ++ after = middle ++ (other.token ++ last) := by
    have heq := h.source_eq.symm.trans hother.source_eq
    rw [List.append_assoc, List.append_assoc, List.append_assoc] at heq
    exact List.append_cancel_left heq
  rcases List.append_eq_append_iff.mp hparts with ⟨inner, rfl, hafter⟩ | ⟨inner, htoken, -⟩
  · -- the token is whole, so what is before the other one is not accepted
    have hclosed : Closes markers inner := by
      have hclosed := h.closed
      rw [hafter] at hclosed
      exact hclosed.of_append
    have hcut : FirstFault markers (before ++ (fault.token ++ inner)) before fault inner :=
      { h with source_eq := (List.append_assoc _ _ _).symm, closed := hclosed }
    obtain ⟨bytes, hbytes⟩ := hother.accepted
    rw [hcut.outcome_parse_eq] at hbytes
    exact absurd hbytes (by simp)
  · -- the token is cut, so the field of the other one is not blank
    have hends : NoEnds middle := by
      have hends := h.noEnds
      rw [htoken] at hends
      exact (noEnds_append.mp hends).1
    have hseparator : markers.separator ∉ middle := by
      intro hmem
      apply h.separator_notMem
      rw [htoken]
      exact List.mem_append_left _ hmem
    have hopened := hother.opened
    rw [lastLine_append hends, lastField_append hseparator, allBlank_append] at hopened
    obtain ⟨c, rest, rfl⟩ := List.exists_cons_of_ne_nil hne
    have hc : isBlank c = false := by
      apply h.tight.1
      rw [htoken]
      rfl
    rw [(allBlank_cons.mp hopened.2).1] at hc
    exact Bool.noConfusion hc

/-- A fault has one place in a listing. -/
theorem FirstFault.unique {source before after before' after' : Text} {fault fault' : Fault}
    (h : FirstFault markers source before fault after)
    (h' : FirstFault markers source before' fault' after') :
    before = before' ∧ fault = fault' ∧ after = after' := by
  have hfault : fault = fault' :=
    Except.error.inj (h.outcome_parse_eq.symm.trans h'.outcome_parse_eq)
  have hbefore : before = before' := by
    have heq := h.source_eq.symm.trans h'.source_eq
    rw [List.append_assoc, List.append_assoc] at heq
    rcases List.append_eq_append_iff.mp heq with ⟨middle, rfl, -⟩ | ⟨middle, rfl, -⟩
    · rw [h.eq_nil h', List.append_nil]
    · rw [h'.eq_nil h, List.append_nil]
  refine ⟨hbefore, hfault, ?_⟩
  have heq := h.source_eq.symm.trans h'.source_eq
  rw [hbefore, hfault] at heq
  exact List.append_cancel_left heq

/-- **Decoding a listing ends with a fault exactly if the listing has this fault at some place**, as
`FirstFault markers source before fault after` says. The place is determined by the listing. What
comes after the field of the token is not looked at: any text that `Closes` the field can stand
there. -/
theorem parse_eq_error_iff_firstFault (markers : Markers) (source : Text) :
    (∀ fault, (parse markers source).outcome = .error fault ↔
      ∃ before after, FirstFault markers source before fault after) ∧
    {place : Text × Fault × Text |
      FirstFault markers source place.1 place.2.1 place.2.2}.Subsingleton ∧
    ∀ before fault after later, FirstFault markers source before fault after →
      Closes markers later →
      (parse markers (before ++ fault.token ++ later)).outcome = .error fault := by
  refine ⟨?_, ?_, ?_⟩
  · intro fault
    refine ⟨exists_firstFault, ?_⟩
    rintro ⟨before, after, h⟩
    exact h.outcome_parse_eq
  · rintro ⟨before, fault, after⟩ h ⟨before', fault', after'⟩ h'
    obtain ⟨rfl, rfl, rfl⟩ := FirstFault.unique h h'
    rfl
  · intro before fault after later h hlater
    have hmoved : FirstFault markers (before ++ fault.token ++ later) before fault later :=
      { h with source_eq := rfl, closed := hlater }
    exact hmoved.outcome_parse_eq

-- the end of two characters is counted once, and the second fault is not reached
example : (parse default ['1', '\r', '\n', ',', ' ', 'z', '\n', '1', '0', '0']).outcome =
    .error ⟨2, ['z'], .malformed⟩ := by
  rfl

end RomCompiler.Listing
