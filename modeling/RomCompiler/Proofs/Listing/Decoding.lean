import RomCompiler.Listing.Parse
import RomCompiler.Proofs.Listing.Token
import RomCompiler.Proofs.Numeral.Reading

/-! # Tokens are decoded without wrapping

A token is decoded in eight bits, digit by digit, and is still told apart by its number alone, which
has no bound. Tokens of another form are refused before any digit is read.
* **`decodeToken_eq_ok_iff`**, **`decodeToken_eq_error_iff`** — a token is decoded alike in every
  line, and its fault names the line and the token.
* **`forall_decodeBy_iff`** — which tokens are refused whatever would read their digits.
* **`decodeToken_eq_iff`** — the outcome for every token, and the way to it. -/

namespace RomCompiler.Listing.Token

open Numeral

variable {number : Nat} {token : Text} {byte : UInt8} {kind : Fault}

/-- **The byte of a token does not depend on its line**:
`decodeToken number token = .ok byte ↔ decode token = .ok byte`. -/
theorem decodeToken_eq_ok_iff : decodeToken number token = .ok byte ↔ decode token = .ok byte := by
  rw [decodeToken]
  rcases decode token with kind | byte <;> simp [Except.mapError]

/-- **A fault is about the token that has it, in the line in which it stands.** -/
theorem decodeToken_eq_error_iff :
    decodeToken number token = .error ⟨number, token, kind⟩ ↔ decode token = .error kind := by
  rw [decodeToken]
  rcases decode token with kind | byte <;> simp [Except.mapError]

/-- `decode token = .ok byte ↔ Written token byte.toNat`: a token is a byte if it is written as the
number of the byte. -/
theorem decode_eq_ok_iff_written : decode token = .ok byte ↔ Written token byte.toNat := by
  rw [decode_eq_ok_iff]
  constructor
  · rintro ⟨n, h, hle, rfl⟩
    rwa [UInt8.toNat_ofNat_of_lt' (Nat.lt_succ_of_le hle)]
  · intro h
    exact ⟨byte.toNat, h, Nat.le_of_lt_succ byte.toNat_lt, UInt8.ofNat_toNat⟩

/-- **A token is not written as a number exactly if it is malformed for every reading of digits, so
that no digits of it are read.** -/
theorem forall_decodeBy_iff :
    (∀ read, decodeBy read token = .error .malformed) ↔ ¬ ∃ n, Written token n := by
  constructor
  · rintro h ⟨n, hn⟩
    -- a reading that always succeeds would give a byte
    have hread := h fun _ => .ok 0
    rw [decodeBy_of_written _ hn] at hread
    exact absurd hread (by simp)
  · exact fun h read => decodeBy_of_not_written read h

/-- **What a token is decoded to is told by the number that it is written as, whatever the length of
its digits.** It is a byte exactly if it is `Written` as the number of this byte, and its fault is
that it is too large exactly if it is written as a larger number. All other tokens are malformed,
and nothing of them is read. The digits of a token are read in eight bits, where the product and the
sum of each step are checked: `push? 16 word digit` fails exactly if a byte cannot hold what it
should give, and otherwise gives just that. So, as `Stepwise` says, the byte is always the number of
the digits so far, until there is no such byte; from then on the reading has overflowed, and there
is no other way in which it fails. -/
theorem decodeToken_eq_iff (number : Nat) (token : Text) :
    (∀ byte, decodeToken number token = .ok byte ↔ Written token byte.toNat) ∧
    (decodeToken number token = .error ⟨number, token, .tooLarge⟩ ↔
      ∃ n, Written token n ∧ 0xff < n) ∧
    (decodeToken number token = .error ⟨number, token, .malformed⟩ ↔ ¬ ∃ n, Written token n) ∧
    ((∀ read, decodeBy read token = .error .malformed) ↔ ¬ ∃ n, Written token n) ∧
    (∀ n, Written token n → Stepwise 8 16 (digits token) n) ∧
    ∀ (word : BitVec 8) digit, digit < 16 →
      (push? 16 word digit = none ↔ 0xff < word.toNat * 16 + digit) ∧
      ∀ next, push? 16 word digit = some next →
        (word * 16).toNat = word.toNat * 16 ∧ next.toNat = word.toNat * 16 + digit := by
  refine ⟨fun byte => ?_, ?_, ?_, forall_decodeBy_iff, ?_, ?_⟩
  · rw [decodeToken_eq_ok_iff, decode_eq_ok_iff_written]
  · rw [decodeToken_eq_error_iff, decode_eq_tooLarge_iff]
  · rw [decodeToken_eq_error_iff, decode_eq_malformed_iff]
  · intro n h
    obtain ⟨hne, hdigits⟩ := h.digits_digits
    exact stepwise_of_digits (by decide) hne hdigits
  · intro word digit hdigit
    exact ⟨push?_eq_none_iff (by decide) hdigit,
      fun next hnext => toNat_of_push? (by decide) hdigit hnext⟩

/-- The reading of digits would drop a sign, which a token must not have. -/
example : Numeral.read 8 16 ['+', '1'] = .ok 1 ∧ decode ['+', '1'] = .error .malformed :=
  ⟨rfl, rfl⟩

end RomCompiler.Listing.Token
