import RomCompiler.Proofs.Numeral.Reading
import RomCompiler.Proofs.Numeral.Shortest
import RomCompiler.Size

/-! # Which texts are sizes

A size is written in decimal, or in hexadecimal after a mark, and may have a plus sign before its
digits. A text of this form is a size if a 64-bit word can hold its number, and there are no other
sizes. Every other text has one fault, which is that of its leftmost problem.
* **`base`**, **`body`**, **`digits`** — the base of a size, and its text without the mark and
  without the sign.
* **`parse_eq_read`** — a size is the numeral of its body.
* **`parse_of_decimal`**, **`parse_of_hexadecimal`** — the digits of a number are the size of this
  number.
* **`message_eq`** — what is said about a text that is not a size.
* **`parse_eq_iff`** — all texts that are sizes, and the faults of all others. -/

namespace RomCompiler.Size

open Numeral

/-- `IsMarked text`: a text begins with the mark of base sixteen. -/
def IsMarked (text : Text) : Prop := ['0', 'x'] <+: text ∨ ['0', 'X'] <+: text

instance (text : Text) : Decidable (IsMarked text) := inferInstanceAs (Decidable (_ ∨ _))

/-- `base text`: the base that a size is written in. -/
def base (text : Text) : Nat := if IsMarked text then 16 else 10

/-- `body text`: a size without its mark. -/
def body (text : Text) : Text := if IsMarked text then text.drop 2 else text

/-- **A size without its mark and without its sign.** A sign with nothing after it is kept. -/
def digits (text : Text) : Text :=
  if (body text).head? = some '+' ∧ 1 < (body text).length then (body text).tail else body text

variable {text : Text} {n : Nat}

/-! ## The numeral of a size -/

/-- A mark is taken off where there is one. -/
theorem unprefixed?_eq (text : Text) :
    unprefixed? text = if IsMarked text then some (text.drop 2) else none := by
  unfold unprefixed?
  split
  · next rest => rw [if_pos (.inl ⟨rest, rfl⟩), List.drop_succ_cons, List.drop_succ_cons,
      List.drop_zero]
  · next rest => rw [if_pos (.inr ⟨rest, rfl⟩), List.drop_succ_cons, List.drop_succ_cons,
      List.drop_zero]
  · next hsmall hcapital =>
    rw [if_neg]
    rintro (⟨rest, rfl⟩ | ⟨rest, rfl⟩)
    · exact hsmall rest rfl
    · exact hcapital rest rfl

/-- `unsigned (body text) = digits text`: a sign is taken off where something comes after it. -/
theorem unsigned_body (text : Text) : unsigned (body text) = digits text := by
  rw [digits]
  generalize body text = numeral
  unfold unsigned
  split
  · next c rest => rw [if_pos (by simp), List.tail_cons]
  · next hsign =>
    rw [if_neg]
    rintro ⟨hhead, hlength⟩
    -- a sign in front of something has been dealt with
    rcases numeral with _ | ⟨sign, _ | ⟨c, rest⟩⟩
    · exact absurd hhead (by simp)
    · exact absurd hlength (by simp)
    · obtain rfl : sign = '+' := by simpa using hhead
      exact hsign c rest rfl

/-- **A size is the numeral of its body, and a fault names the whole text.** -/
theorem parse_eq_read (text : Text) :
    parse text = (read 64 (base text) (body text)).mapError fun reason => ⟨text, reason⟩ := by
  rw [parse, unprefixed?_eq, base, body]
  by_cases h : IsMarked text
  · rw [if_pos h, if_pos h, if_pos h]
  · rw [if_neg h, if_neg h, if_neg h]

/-- `digits text = [] ↔ body text = []`: there is nothing in the body where there are no digits. -/
theorem digits_eq_nil_iff : digits text = [] ↔ body text = [] := by
  rw [digits]
  split
  · next h =>
    rw [← List.length_eq_zero_iff, List.length_tail, ← List.length_eq_zero_iff]
    omega
  · rfl

/-- `parse text = .error ⟨text, .empty⟩`: an empty body is a fault of its own. -/
theorem parse_of_nil (h : body text = []) : parse text = .error ⟨text, .empty⟩ := by
  rw [parse_eq_read, h]
  rfl

/-- Anything else is read digit by digit. -/
theorem parse_of_ne_nil (h : body text ≠ []) :
    parse text = (accumulate (base text) (0 : BitVec 64) (digits text)).mapError
      fun reason => ⟨text, reason⟩ := by
  rw [parse_eq_read, Numeral.read, if_neg (by simpa using h), unsigned_body]

/-- `fault.text = text`: a fault is about the whole text. -/
theorem text_eq_of_parse {fault : Fault} (h : parse text = .error fault) : fault.text = text := by
  rw [parse_eq_read] at h
  rcases hread : Numeral.read 64 (base text) (body text) with reason | word
  · rw [hread] at h
    rw [← Except.error.inj h]
  · rw [hread] at h
    exact absurd h (by simp [Except.mapError])

/-- The reading of a body that is not empty gives its word. -/
theorem parse_eq_ok_iff_of_ne_nil (h : body text ≠ []) {word : BitVec 64} :
    parse text = .ok word ↔ accumulate (base text) 0 (digits text) = .ok word := by
  rw [parse_of_ne_nil h]
  rcases accumulate (base text) (0 : BitVec 64) (digits text) with reason | other <;>
    simp [Except.mapError]

/-- The reading of a body that is not empty gives the reason of its fault. -/
theorem parse_eq_error_iff_of_ne_nil (h : body text ≠ []) {reason : Numeral.Fault} :
    parse text = .error ⟨text, reason⟩ ↔
      accumulate (base text) (0 : BitVec 64) (digits text) = .error reason := by
  rw [parse_of_ne_nil h]
  rcases accumulate (base text) (0 : BitVec 64) (digits text) with other | word <;>
    simp [Except.mapError]

/-- `base text < 2 ^ 64`: both bases fit in a word. -/
theorem base_lt (text : Text) : base text < 2 ^ 64 := by
  rw [base]
  split <;> decide

/-! ## Sizes and faults -/

/-- A text is a size if it has digits, and they have the number of the size. -/
theorem parse_eq_ok_iff {word : BitVec 64} :
    parse text = .ok word ↔ digits text ≠ [] ∧ Digits (base text) (digits text) word.toNat := by
  by_cases h : body text = []
  · rw [parse_of_nil h]
    simp [digits_eq_nil_iff.mpr h]
  · rw [parse_eq_ok_iff_of_ne_nil h, accumulate_eq_ok_iff (base_lt text)]
    simp [digits_eq_nil_iff, h]

/-- `parse text = .error ⟨text, .empty⟩ ↔ body text = []`: the fault of a text is that it is empty
if nothing comes after its mark. -/
theorem parse_eq_empty_iff : parse text = .error ⟨text, .empty⟩ ↔ body text = [] := by
  constructor
  · intro h
    by_contra hne
    exact accumulate_ne_empty _ _ _ ((parse_eq_error_iff_of_ne_nil hne).mp h)
  · exact parse_of_nil

/-- The fault of a text is its first character that is no digit if the digits before that have the
number of a word. -/
theorem parse_eq_invalidDigit_iff : parse text = .error ⟨text, .invalidDigit⟩ ↔
    ∃ front c back n, digits text = front ++ c :: back ∧ Digits (base text) front n ∧
      ¬ IsDigit (base text) c ∧ n < 2 ^ 64 := by
  by_cases h : body text = []
  · rw [parse_of_nil h, digits_eq_nil_iff.mpr h]
    simp
  · rw [parse_eq_error_iff_of_ne_nil h, accumulate_eq_invalidDigit_iff (base_lt text)]

/-- The fault of a text is an overflow if some of its first characters are digits with the number of
no word. -/
theorem parse_eq_overflow_iff : parse text = .error ⟨text, .overflow⟩ ↔
    ∃ front back n, digits text = front ++ back ∧ Digits (base text) front n ∧ 2 ^ 64 ≤ n := by
  by_cases h : body text = []
  · rw [parse_of_nil h, digits_eq_nil_iff.mpr h]
    constructor
    · intro hfault
      exact absurd hfault (by simp)
    · rintro ⟨front, back, n, hnil, hfront, hle⟩
      -- no digits have the number nought
      rw [(List.append_eq_nil_iff.mp hnil.symm).1] at hfront
      cases hfront
      exact absurd hle (by decide)
  · rw [parse_eq_error_iff_of_ne_nil h, accumulate_eq_overflow_iff (base_lt text)]

/-- **The messages about a text that is not a size**, one for each reason. Each one opens with the
text. -/
theorem message_eq (text : Text) :
    Fault.message ⟨text, .empty⟩ = "invalid size '" ++ String.ofList text ++
      "': cannot parse integer from empty string" ∧
    Fault.message ⟨text, .invalidDigit⟩ = "invalid size '" ++ String.ofList text ++
      "': invalid digit found in string" ∧
    Fault.message ⟨text, .overflow⟩ = "invalid size '" ++ String.ofList text ++
      "': number too large to fit in target type" := by
  refine ⟨?_, ?_, ?_⟩
  · exact String.append_assoc
  · exact String.append_assoc
  · exact String.append_assoc

/-! ## Numbers as sizes -/

/-- `¬ IsMarked text`: digits are not marked. -/
theorem not_isMarked_of_digits {base : Nat} (h : Digits base text n) : ¬ IsMarked text := by
  intro hmarked
  have hunmarked := unprefixed?_of_digits h
  rw [unprefixed?_eq, if_pos hmarked] at hunmarked
  exact absurd hunmarked (by simp)

/-- **Decimal digits are the size of their number**: `parse text = .ok word`. -/
theorem parse_of_decimal {word : BitVec 64} (hne : text ≠ []) (h : Digits 10 text word.toNat) :
    parse text = .ok word := by
  have hplain := not_isMarked_of_digits h
  have hbase : base text = 10 := if_neg hplain
  have hbody : body text = text := if_neg hplain
  have hdigits : digits text = text := by
    rw [← unsigned_body, hbody, unsigned_of_digits h]
  rw [parse_eq_ok_iff, hbase, hdigits]
  exact ⟨hne, h⟩

/-- **Hexadecimal digits after a mark are the size of their number**:
`parse ('0' :: 'x' :: text) = .ok word`. -/
theorem parse_of_hexadecimal {word : BitVec 64} (hne : text ≠ []) (h : Digits 16 text word.toNat) :
    parse ('0' :: 'x' :: text) = .ok word := by
  have hmarked : IsMarked ('0' :: 'x' :: text) := .inl ⟨text, rfl⟩
  have hbase : base ('0' :: 'x' :: text) = 16 := if_pos hmarked
  have hbody : body ('0' :: 'x' :: text) = text := if_pos hmarked
  have hdigits : digits ('0' :: 'x' :: text) = text := by
    rw [← unsigned_body, hbody, unsigned_of_digits h]
  rw [parse_eq_ok_iff, hbase, hdigits]
  exact ⟨hne, h⟩

/-- **All texts that are sizes, and the faults of all others.** Let `digits text` be the text
without the mark of `base text` and without a sign in front. It is a size if there are digits and a
word can hold their number, which is the size. Otherwise it is empty, or its first character that is
no digit comes before any overflow, or its digits overflow, and the message names the text and this
reason. So every number of a word is read back from its digits in either base, with any zeros in
front of them. On the way nothing wraps: the word is the number of the digits so far, and
`word * base` and `word * base + digit` are those of the numbers. -/
theorem parse_eq_iff :
    (∀ text : Text,
      (∀ word : BitVec 64, parse text = .ok word ↔
        digits text ≠ [] ∧ Digits (base text) (digits text) word.toNat) ∧
      (parse text = .error ⟨text, .empty⟩ ↔ body text = []) ∧
      (parse text = .error ⟨text, .invalidDigit⟩ ↔
        ∃ front c back n, digits text = front ++ c :: back ∧ Digits (base text) front n ∧
          ¬ IsDigit (base text) c ∧ n < 2 ^ 64) ∧
      (parse text = .error ⟨text, .overflow⟩ ↔
        ∃ front back n, digits text = front ++ back ∧ Digits (base text) front n ∧ 2 ^ 64 ≤ n) ∧
      (Fault.message ⟨text, .empty⟩ = "invalid size '" ++ String.ofList text ++
          "': cannot parse integer from empty string" ∧
        Fault.message ⟨text, .invalidDigit⟩ = "invalid size '" ++ String.ofList text ++
          "': invalid digit found in string" ∧
        Fault.message ⟨text, .overflow⟩ = "invalid size '" ++ String.ofList text ++
          "': number too large to fit in target type") ∧
      (∀ fault, parse text = .error fault → fault.text = text ∧
        fault.message = "invalid size '" ++ String.ofList text ++ "': " ++ fault.reason.reason) ∧
      ∀ front (word : BitVec 64), front <+: digits text →
        accumulate (base text) 0 front = .ok word →
          Digits (base text) front word.toNat ∧
          ∀ digit next, digit < base text → push? (base text) word digit = some next →
            (word * BitVec.ofNat 64 (base text)).toNat = word.toNat * base text ∧
            next.toNat = word.toNat * base text + digit) ∧
    ∀ (word : BitVec 64) (zeros : Nat),
      parse (List.replicate zeros '0' ++ Nat.toDigits 10 word.toNat) = .ok word ∧
      parse ('0' :: 'x' :: (List.replicate zeros '0' ++ Nat.toDigits 16 word.toNat)) =
        .ok word := by
  constructor
  · intro text
    refine ⟨fun word => parse_eq_ok_iff, parse_eq_empty_iff, parse_eq_invalidDigit_iff,
      parse_eq_overflow_iff, message_eq text, ?_, ?_⟩
    · intro fault hfault
      obtain rfl := text_eq_of_parse hfault
      exact ⟨rfl, rfl⟩
    · intro front word _ hword
      refine ⟨(accumulate_eq_ok_iff (base_lt text)).mp hword, ?_⟩
      intro digit next hdigit hpush
      exact toNat_of_push? (base_lt text) hdigit hpush
  · intro word zeros
    constructor
    · apply parse_of_decimal (List.append_ne_nil_of_right_ne_nil _ Nat.toDigits_ne_nil)
      exact digits_zeros_append (by decide) (digits_toDigits (by decide) (by decide) _) zeros
    · apply parse_of_hexadecimal (List.append_ne_nil_of_right_ne_nil _ Nat.toDigits_ne_nil)
      exact digits_zeros_append (by decide) (digits_toDigits (by decide) (by decide) _) zeros

end RomCompiler.Size
