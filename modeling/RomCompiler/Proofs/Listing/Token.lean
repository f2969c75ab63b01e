import RomCompiler.Listing.Token
import RomCompiler.Proofs.Numeral.Positional

/-! # Tokens and their numbers

A token is written as a number if it is an optional mark of base sixteen and one or more digits; it
is a byte if that number is not above the largest byte.
* **`Written token n`** — the token is written as the number `n`, which has no bound.
* **`decodeBy_of_written`**, **`decodeBy_of_not_written`** — a token has its digits read if it is
  written as a number, and is not looked at further otherwise.
* **`decode_eq_ok_iff`**, **`decode_eq_malformed_iff`**, **`decode_eq_tooLarge_iff`** — the three
  outcomes of decoding a token, told from how it is written. -/

namespace RomCompiler.Listing.Token

open Numeral

/-- **A token is written as a number**: `Written token n` for hexadecimal digits of `n` after an
optional mark of their base. -/
inductive Written : Text → Nat → Prop
  /-- There is no mark. -/
  | bare {digits : Text} {n : Nat} (hne : digits ≠ []) (h : Digits 16 digits n) : Written digits n
  /-- The mark has a small letter. -/
  | small {digits : Text} {n : Nat} (hne : digits ≠ []) (h : Digits 16 digits n) :
      Written ('0' :: 'x' :: digits) n
  /-- The mark has a capital letter. -/
  | capital {digits : Text} {n : Nat} (hne : digits ≠ []) (h : Digits 16 digits n) :
      Written ('0' :: 'X' :: digits) n

/-- `digits text = text`: a text of digits has no mark to take off. -/
theorem digits_of_digits {text : Text} {n : Nat} (h : Digits 16 text n) : digits text = text := by
  rw [digits, unprefixed?_of_digits h]
  rfl

/-- `digits token ≠ [] ∧ Digits 16 (digits token) n`: a token that is written as a number has its
digits left when the mark is taken off. -/
theorem Written.digits_digits {token : Text} {n : Nat} (h : Written token n) :
    digits token ≠ [] ∧ Digits 16 (digits token) n := by
  cases h with
  | bare hne h => rw [digits_of_digits h]; exact ⟨hne, h⟩
  | small hne h => exact ⟨hne, h⟩
  | capital hne h => exact ⟨hne, h⟩

/-- `Written token n`: a token with digits left when the mark is taken off is written as their
number. -/
theorem written_of_digits {token : Text} {n : Nat} (hne : digits token ≠ [])
    (h : Digits 16 (digits token) n) : Written token n := by
  -- the three ways to write a token are the three cases of taking off a mark
  revert hne h
  unfold digits unprefixed?
  split <;> intro hne h
  · exact .small hne h
  · exact .capital hne h
  · exact .bare hne h

/-- A token is written as a number if what is left without the mark is digits, and not nothing. -/
theorem exists_written_iff {token : Text} :
    (∃ n, Written token n) ↔ digits token ≠ [] ∧ ∀ c ∈ digits token, isHexDigit c = true := by
  rw [← exists_digits_iff]
  constructor
  · rintro ⟨n, h⟩
    exact ⟨h.digits_digits.1, n, h.digits_digits.2⟩
  · rintro ⟨hne, n, h⟩
    exact ⟨n, written_of_digits hne h⟩

/-- **A token that is written as a number has its digits read, and all faults of that are one.** -/
theorem decodeBy_of_written (read : Text → Except Numeral.Fault (BitVec 8)) {token : Text} {n : Nat}
    (h : Written token n) : decodeBy read token =
      match read (digits token) with
      | .ok byte => .ok (UInt8.ofBitVec byte)
      | .error _ => .error .tooLarge := by
  obtain ⟨hne, hall⟩ := exists_written_iff.mp ⟨n, h⟩
  exact if_neg (by simpa [hne] using hall)

/-- **A token that is not written as a number is malformed, and nothing of it is read**:
`decodeBy read token = .error .malformed`. -/
theorem decodeBy_of_not_written (read : Text → Except Numeral.Fault (BitVec 8)) {token : Text}
    (h : ¬ ∃ n, Written token n) : decodeBy read token = .error .malformed := by
  rw [exists_written_iff] at h
  rw [decodeBy, if_pos]
  by_cases hne : digits token = []
  · simp [hne]
  · have hall : ¬ ∀ c ∈ digits token, isHexDigit c = true := fun hall => h ⟨hne, hall⟩
    simpa [hne] using hall

/-- A token that is written as a number is the byte with that number, if there is one. -/
theorem decode_of_written {token : Text} {n : Nat} (h : Written token n) :
    decode token = if n ≤ 0xff then .ok (UInt8.ofNat n) else .error .tooLarge := by
  obtain ⟨hne, hdigits⟩ := h.digits_digits
  rw [decode, decodeBy_of_written _ h, read_of_digits (by decide) hne hdigits]
  by_cases hn : n ≤ 0xff
  · rw [if_pos (by omega), if_pos hn]
    rfl
  · rw [if_neg (by omega), if_neg hn]

/-- `decode token = .error .malformed`: a token that is not written as a number is malformed. -/
theorem decode_of_not_written {token : Text} (h : ¬ ∃ n, Written token n) :
    decode token = .error .malformed :=
  decodeBy_of_not_written _ h

/-- **A token is a byte if it is written as the number of that byte.** -/
theorem decode_eq_ok_iff {token : Text} {byte : UInt8} :
    decode token = .ok byte ↔ ∃ n, Written token n ∧ n ≤ 0xff ∧ UInt8.ofNat n = byte := by
  constructor
  · intro h
    by_cases hwritten : ∃ n, Written token n
    · obtain ⟨n, hn⟩ := hwritten
      rw [decode_of_written hn] at h
      split at h
      · next hle => exact ⟨n, hn, hle, Except.ok.inj h⟩
      · exact absurd h (by simp)
    · rw [decode_of_not_written hwritten] at h
      exact absurd h (by simp)
  · rintro ⟨n, hn, hle, rfl⟩
    rw [decode_of_written hn, if_pos hle]

/-- **A token is malformed if it is not written as a number**:
`decode token = .error .malformed ↔ ¬ ∃ n, Written token n`. -/
theorem decode_eq_malformed_iff {token : Text} :
    decode token = .error .malformed ↔ ¬ ∃ n, Written token n := by
  constructor
  · rintro h ⟨n, hn⟩
    rw [decode_of_written hn] at h
    split at h <;> exact absurd h (by simp)
  · exact decode_of_not_written

/-- **A token is too large if it is written as a number above the largest byte.** -/
theorem decode_eq_tooLarge_iff {token : Text} :
    decode token = .error .tooLarge ↔ ∃ n, Written token n ∧ 0xff < n := by
  constructor
  · intro h
    by_cases hwritten : ∃ n, Written token n
    · obtain ⟨n, hn⟩ := hwritten
      rw [decode_of_written hn] at h
      split at h
      · exact absurd h (by simp)
      · next hle => exact ⟨n, hn, Nat.lt_of_not_le hle⟩
    · rw [decode_of_not_written hwritten] at h
      exact absurd h (by simp)
  · rintro ⟨n, hn, hlt⟩
    rw [decode_of_written hn, if_neg (Nat.not_le.mpr hlt)]

end RomCompiler.Listing.Token
