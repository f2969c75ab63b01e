import RomCompiler.Proofs.Numeral.Positional

/-! # How far a numeral is read

Digits are read into a word from left to right, and the word is always the number of the digits so
far. The reading stops at the first character that is no digit, or before it as soon as the digits
have outgrown the word, whatever comes after them.
* **`IsDigit`** — a character is a digit of a base; **`exists_digits_or`** — a text is made of
  digits, or it has a first character that is none.
* **`accumulate_append`** — a text is read part by part.
* **`push?_eq_none_iff`**, **`toNat_of_push?`** — when a step overflows, and that no step wraps.
* **`Stepwise`**, **`stepwise_of_digits`** — the reading of digits, told after each of them.
* **`accumulate_cases`** — the three ends that the reading can come to.
* **`accumulate_eq_ok_iff`** — the word that is read is the number of its digits.
* **`accumulate_eq_invalidDigit_iff`**, **`accumulate_eq_overflow_iff`** — where the reading stops,
  and why. -/

namespace RomCompiler.Numeral

variable {w base n : Nat} {text front back : Text} {c : Char}

/-- `IsDigit base c`: a character is a digit of a base. -/
def IsDigit (base : Nat) (c : Char) : Prop := ∃ d, HexDigit c d ∧ d < base

/-! ## Digits and what comes after them -/

/-- `digit? base c = none`: a character that is no digit of the base has no value in it. -/
theorem digit?_of_not_isDigit (h : ¬ IsDigit base c) : digit? base c = none := by
  rw [digit?]
  rcases hvalue : hexDigit? c with _ | d
  · rfl
  · have hle : base ≤ d := by
      refine Nat.le_of_not_lt fun hlt => h ⟨d, ?_, hlt⟩
      exact hexDigit?_eq_some_iff.mp hvalue
    simp [hle]

/-- **A text is made of digits, or there is a first character that is no digit.** -/
theorem exists_digits_or (base : Nat) (text : Text) :
    (∃ n, Digits base text n) ∨
      ∃ front c back n, text = front ++ c :: back ∧ Digits base front n ∧ ¬ IsDigit base c := by
  induction text with
  | nil => exact .inl ⟨0, .nil⟩
  | cons c text ih =>
    by_cases hc : IsDigit base c
    · obtain ⟨d, hdigit, hlt⟩ := hc
      rcases ih with ⟨n, hn⟩ | ⟨front, stop, back, n, rfl, hfront, hstop⟩
      · exact .inl ⟨_, .cons hdigit hlt hn⟩
      · exact .inr ⟨c :: front, stop, back, _, rfl, .cons hdigit hlt hfront, hstop⟩
    · exact .inr ⟨[], c, text, 0, rfl, .nil, hc⟩

/-- **A text is read part by part: the second part goes on with the word of the first.** -/
theorem accumulate_append (base : Nat) (acc : BitVec w) (front back : Text) :
    accumulate base acc (front ++ back) = (do
      let word ← accumulate base acc front
      accumulate base word back) := by
  induction front generalizing acc with
  | nil => rfl
  | cons c front ih =>
    rw [List.cons_append, accumulate, accumulate]
    rcases digit? base c with _ | digit
    · rfl
    · rcases hpush : push? base acc digit with _ | next
      · simp only [hpush]
        rfl
      · simp only [hpush]
        exact ih next

/-! ## No step wraps -/

/-- **A step of the reading overflows exactly if the word cannot hold the number that it should
have**: `push? base acc digit = none ↔ 2 ^ w ≤ acc.toNat * base + digit`. -/
theorem push?_eq_none_iff {acc : BitVec w} {digit : Nat} (hbase : base < 2 ^ w)
    (hdigit : digit < base) : push? base acc digit = none ↔ 2 ^ w ≤ acc.toNat * base + digit := by
  constructor
  · intro h
    refine Nat.le_of_not_lt fun hfits => ?_
    rw [push?_of_lt hbase hfits] at h
    exact absurd h (by simp)
  · exact push?_of_le hbase (hdigit.trans hbase)

/-- **A step of the reading that succeeds has the number that it should have, and so has the product
that it is made with.** -/
theorem toNat_of_push? {acc next : BitVec w} {digit : Nat} (hbase : base < 2 ^ w)
    (hdigit : digit < base) (h : push? base acc digit = some next) :
    (acc * BitVec.ofNat w base).toNat = acc.toNat * base ∧
      next.toNat = acc.toNat * base + digit := by
  have hfits : acc.toNat * base + digit < 2 ^ w := by
    refine Nat.lt_of_not_le fun hle => ?_
    rw [(push?_eq_none_iff hbase hdigit).mpr hle] at h
    exact absurd h (by simp)
  rw [push?_of_lt hbase hfits] at h
  constructor
  · rw [BitVec.toNat_mul, BitVec.toNat_ofNat, Nat.mod_eq_of_lt hbase,
      Nat.mod_eq_of_lt (Nat.lt_of_le_of_lt (Nat.le_add_right _ _) hfits)]
  · rw [← Option.some.inj h, BitVec.toNat_ofNat, Nat.mod_eq_of_lt hfits]

/-! ## Where the reading stops -/

/-- Digits are read from the start exactly if the word can hold their number. -/
theorem accumulate_zero_of_digits (hbase : base < 2 ^ w) (digits : Digits base text n) :
    accumulate base (0 : BitVec w) text =
      if n < 2 ^ w then .ok (BitVec.ofNat w n) else .error .overflow := by
  have hread := accumulate_of_digits hbase digits 0
  simpa using hread

/-- Once digits have outgrown the word, the reading overflows, whatever comes after them. -/
theorem accumulate_of_le (hbase : base < 2 ^ w) (digits : Digits base front n) (h : 2 ^ w ≤ n)
    (back : Text) : accumulate base (0 : BitVec w) (front ++ back) = .error .overflow := by
  rw [accumulate_append, accumulate_zero_of_digits hbase digits, if_neg (Nat.not_lt.mpr h)]
  rfl

/-- At a character that is no digit the reading stops, unless it has overflowed before. -/
theorem accumulate_of_not_isDigit (hbase : base < 2 ^ w) (digits : Digits base front n)
    (hc : ¬ IsDigit base c) (back : Text) :
    accumulate base (0 : BitVec w) (front ++ c :: back) =
      if n < 2 ^ w then .error .invalidDigit else .error .overflow := by
  rw [accumulate_append, accumulate_zero_of_digits hbase digits]
  split
  · show accumulate base _ (c :: back) = _
    rw [accumulate, digit?_of_not_isDigit hc]
  · rfl

/-- `accumulate base acc text ≠ .error .empty`: characters are read without asking whether there are
any. -/
theorem accumulate_ne_empty (base : Nat) (acc : BitVec w) (text : Text) :
    accumulate base acc text ≠ .error .empty := by
  induction text generalizing acc with
  | nil => exact fun h => absurd h (by simp)
  | cons c text ih =>
    rw [accumulate]
    rcases digit? base c with _ | digit
    · exact fun h => absurd h (by simp)
    · rcases hpush : push? base acc digit with _ | next
      · simp [hpush]
      · simpa only [hpush] using ih next

/-- **The reading comes to one of three ends: all digits are read, or it stops at the first
character that is no digit, or the digits have outgrown the word.** -/
theorem accumulate_cases (hbase : base < 2 ^ w) (text : Text) :
    (∃ n, Digits base text n ∧ n < 2 ^ w ∧
      accumulate base 0 text = .ok (BitVec.ofNat w n)) ∨
    (∃ front c back n, text = front ++ c :: back ∧ Digits base front n ∧ ¬ IsDigit base c ∧
      n < 2 ^ w ∧ accumulate base (0 : BitVec w) text = .error .invalidDigit) ∨
    ∃ front back n, text = front ++ back ∧ Digits base front n ∧ 2 ^ w ≤ n ∧
      accumulate base (0 : BitVec w) text = .error .overflow := by
  rcases exists_digits_or base text with ⟨n, hn⟩ | ⟨front, c, back, n, rfl, hfront, hc⟩
  · rw [accumulate_zero_of_digits hbase hn]
    by_cases hlt : n < 2 ^ w
    · exact .inl ⟨n, hn, hlt, if_pos hlt⟩
    · exact .inr (.inr ⟨text, [], n, (List.append_nil text).symm, hn, Nat.le_of_not_lt hlt,
        if_neg hlt⟩)
  · rw [accumulate_of_not_isDigit hbase hfront hc]
    by_cases hlt : n < 2 ^ w
    · exact .inr (.inl ⟨front, c, back, n, rfl, hfront, hc, hlt, if_pos hlt⟩)
    · exact .inr (.inr ⟨front, c :: back, n, rfl, hfront, Nat.le_of_not_lt hlt, if_neg hlt⟩)

/-- **A word is read exactly from the digits of its number.** -/
theorem accumulate_eq_ok_iff (hbase : base < 2 ^ w) {word : BitVec w} :
    accumulate base 0 text = .ok word ↔ Digits base text word.toNat := by
  constructor
  · intro h
    rcases accumulate_cases hbase text with ⟨n, hn, hlt, hread⟩ |
      ⟨_, _, _, _, _, _, _, _, hread⟩ | ⟨_, _, _, _, _, _, hread⟩
    · rw [hread] at h
      rw [← Except.ok.inj h, BitVec.toNat_ofNat, Nat.mod_eq_of_lt hlt]
      exact hn
    · exact absurd (hread.symm.trans h) (by simp)
    · exact absurd (hread.symm.trans h) (by simp)
  · intro h
    rw [accumulate_zero_of_digits hbase h, if_pos word.isLt, BitVec.ofNat_toNat,
      BitVec.setWidth_eq]

/-- **The reading stops at the first character that is no digit, if the word can hold the number of
the digits before it.** -/
theorem accumulate_eq_invalidDigit_iff (hbase : base < 2 ^ w) :
    accumulate base (0 : BitVec w) text = .error .invalidDigit ↔
      ∃ front c back n, text = front ++ c :: back ∧ Digits base front n ∧ ¬ IsDigit base c ∧
        n < 2 ^ w := by
  constructor
  · intro h
    rcases accumulate_cases hbase text with ⟨_, _, _, hread⟩ |
      ⟨front, c, back, n, htext, hfront, hc, hlt, -⟩ | ⟨_, _, _, _, _, _, hread⟩
    · exact absurd (hread.symm.trans h) (by simp)
    · exact ⟨front, c, back, n, htext, hfront, hc, hlt⟩
    · exact absurd (hread.symm.trans h) (by simp)
  · rintro ⟨front, c, back, n, rfl, hfront, hc, hlt⟩
    rw [accumulate_of_not_isDigit hbase hfront hc, if_pos hlt]

/-- **The reading overflows if the word cannot hold the number of some of the first digits.** -/
theorem accumulate_eq_overflow_iff (hbase : base < 2 ^ w) :
    accumulate base (0 : BitVec w) text = .error .overflow ↔
      ∃ front back n, text = front ++ back ∧ Digits base front n ∧ 2 ^ w ≤ n := by
  constructor
  · intro h
    rcases accumulate_cases hbase text with ⟨_, _, _, hread⟩ |
      ⟨_, _, _, _, _, _, _, _, hread⟩ | ⟨front, back, n, htext, hfront, hle, -⟩
    · exact absurd (hread.symm.trans h) (by simp)
    · exact absurd (hread.symm.trans h) (by simp)
    · exact ⟨front, back, n, htext, hfront, hle⟩
  · rintro ⟨front, back, n, rfl, hfront, hle⟩
    exact accumulate_of_le hbase hfront hle back

/-! ## The reading step by step -/

/-- `∃ m, Digits base front m`: the front of a text of digits is digits. -/
theorem exists_digits_of_append (digits : Digits base (front ++ back) n) :
    ∃ m, Digits base front m := by
  induction front generalizing n with
  | nil => exact ⟨0, .nil⟩
  | cons c front ih =>
    cases digits with
    | cons digit lt_base digits =>
      obtain ⟨m, hm⟩ := ih digits
      exact ⟨_, .cons digit lt_base hm⟩

/-- **The reading of digits with the number `n` into a word, told after each of them.** -/
structure Stepwise (w base : Nat) (text : Text) (n : Nat) : Prop where
  /-- The word is the number of the digits so far. If there is no such word, it has overflowed. -/
  accumulate_eq : ∀ front, front <+: text → ∃ m, Digits base front m ∧
    accumulate base (0 : BitVec w) front =
      if m < 2 ^ w then .ok (BitVec.ofNat w m) else .error .overflow
  /-- No more digits bring back what has overflowed. -/
  overflow : ∀ front, front <+: text →
    accumulate base (0 : BitVec w) front = .error .overflow →
      accumulate base (0 : BitVec w) text = .error .overflow
  /-- In the end the word is the number of all digits. If there is no such word, the reading has
  overflowed, and it has no other fault. -/
  read_eq : read w base text =
    if n < 2 ^ w then .ok (BitVec.ofNat w n) else .error .overflow

/-- **Digits are read step by step**: `Stepwise w base text n`. -/
theorem stepwise_of_digits (hbase : base < 2 ^ w) (hne : text ≠ []) (digits : Digits base text n) :
    Stepwise w base text n := by
  constructor
  case accumulate_eq =>
    rintro front ⟨back, rfl⟩
    obtain ⟨m, hfront⟩ := exists_digits_of_append digits
    exact ⟨m, hfront, accumulate_zero_of_digits hbase hfront⟩
  case overflow =>
    rintro front ⟨back, rfl⟩ hover
    rw [accumulate_append, hover]
    rfl
  case read_eq => exact read_of_digits hbase hne digits

end RomCompiler.Numeral
