import Mathlib.Algebra.Order.Ring.Nat
import Mathlib.Tactic.IntervalCases
import Mathlib.Tactic.Ring
import RomCompiler.Numeral

/-! # Positional numerals

The number that digits stand for is told digit by digit, each one weighted by its place, and has no
bound; the reading into a word is compared with it.
* **`HexDigit`** — the characters that are digits, with their values.
* **`Digits base text n`** — all characters of `text` are digits of `base`, and stand for `n`.
* **`accumulate_of_digits`** — digits are read into a word exactly if their number fits in it, and
  overflow otherwise, whatever their number of leading zeros. -/

namespace RomCompiler.Numeral

/-! ## Digits and their values -/

/-- **A character is a digit of base sixteen with the given value**: `HexDigit c d`. -/
inductive HexDigit : Char → Nat → Prop
  /-- A decimal digit. -/
  | decimal {d : Nat} (h : d < 10) : HexDigit (Char.ofNat ('0'.toNat + d)) d
  /-- A lower-case letter from `a` to `f`. -/
  | lower {d : Nat} (h : d < 6) : HexDigit (Char.ofNat ('a'.toNat + d)) (10 + d)
  /-- An upper-case letter from `A` to `F`. -/
  | upper {d : Nat} (h : d < 6) : HexDigit (Char.ofNat ('A'.toNat + d)) (10 + d)

/-- **A text is made of digits of a base, and stands for a number**: with `Digits base text n` each
digit counts as often as its place says. -/
inductive Digits (base : Nat) : Text → Nat → Prop
  /-- No digits stand for nought. -/
  | nil : Digits base [] 0
  /-- One more digit in front has the highest place. -/
  | cons {c : Char} {d n : Nat} {rest : Text} (digit : HexDigit c d) (lt_base : d < base)
      (digits : Digits base rest n) : Digits base (c :: rest) (d * base ^ rest.length + n)

/-- `c = Char.ofNat (first.toNat + (c.toNat - first.toNat))`: a character in a range of characters
is the first one of the range, moved on. -/
theorem eq_ofNat_add {c first : Char} (h : first ≤ c) :
    c = Char.ofNat (first.toNat + (c.toNat - first.toNat)) := by
  have hle : first.toNat ≤ c.toNat := h
  rw [Nat.add_sub_cancel' hle, Char.ofNat_toNat]

/-- `hexDigit? c = some d ↔ HexDigit c d`: the model reads a digit as the value it has. -/
theorem hexDigit?_eq_some_iff {c : Char} {d : Nat} : hexDigit? c = some d ↔ HexDigit c d := by
  constructor
  · intro h
    unfold hexDigit? at h
    split at h
    · next hc =>
      obtain rfl := Option.some.inj h
      have hlt : c.toNat - '0'.toNat < 10 := by
        have hle : c.toNat ≤ '9'.toNat := hc.2
        simp only [Char.reduceToNat] at hle ⊢
        omega
      rw [eq_ofNat_add hc.1]
      simpa only [← eq_ofNat_add hc.1] using HexDigit.decimal hlt
    · split at h
      · next hc =>
        obtain rfl := Option.some.inj h
        have hlt : c.toNat - 'a'.toNat < 6 := by
          have hle : c.toNat ≤ 'f'.toNat := hc.2
          simp only [Char.reduceToNat] at hle ⊢
          omega
        rw [Nat.add_comm]
        simpa only [← eq_ofNat_add hc.1] using HexDigit.lower hlt
      · split at h
        · next hc =>
          obtain rfl := Option.some.inj h
          have hlt : c.toNat - 'A'.toNat < 6 := by
            have hle : c.toNat ≤ 'F'.toNat := hc.2
            simp only [Char.reduceToNat] at hle ⊢
            omega
          rw [Nat.add_comm]
          simpa only [← eq_ofNat_add hc.1] using HexDigit.upper hlt
        · exact absurd h (by simp)
  · -- there are few digits of each kind, so each one is looked at
    rintro (@⟨d, h⟩ | @⟨d, h⟩ | @⟨d, h⟩) <;> interval_cases d <;> decide

/-- A digit of base sixteen is a value below sixteen. -/
theorem HexDigit.lt_sixteen {c : Char} {d : Nat} (h : HexDigit c d) : d < 16 := by
  cases h <;> omega

/-- A character is a digit with at most one value. -/
theorem HexDigit.unique {c : Char} {d e : Nat} (hd : HexDigit c d) (he : HexDigit c e) : d = e := by
  have hsome := hexDigit?_eq_some_iff.mpr hd
  rw [hexDigit?_eq_some_iff.mpr he] at hsome
  exact (Option.some.inj hsome).symm

/-- The model takes a digit below the base for a digit of that base. -/
theorem digit?_of_hexDigit {base d : Nat} {c : Char} (hdigit : HexDigit c d) (hlt : d < base) :
    digit? base c = some d := by
  rw [digit?, hexDigit?_eq_some_iff.mpr hdigit]
  simp [hlt]

/-- `isHexDigit c = true ↔ ∃ d, HexDigit c d`: the hexadecimal digits are the characters that have a
value as such. -/
theorem isHexDigit_iff {c : Char} : isHexDigit c = true ↔ ∃ d, HexDigit c d := by
  rw [isHexDigit, Option.isSome_iff_exists]
  simp only [hexDigit?_eq_some_iff]

/-! ## Texts of digits -/

/-- Digits stand for one number only. -/
theorem Digits.unique {base n m : Nat} {text : Text} (hn : Digits base text n)
    (hm : Digits base text m) : n = m := by
  induction hn generalizing m with
  | nil =>
    cases hm
    rfl
  | cons digit _ _ ih =>
    cases hm with
    | cons digit' _ digits' =>
      rw [digit.unique digit', ih digits']

/-- Digits of whatever base are hexadecimal digits. -/
theorem Digits.isHexDigit_of_mem {base n : Nat} {text : Text} (h : Digits base text n) {c : Char}
    (hc : c ∈ text) : isHexDigit c = true := by
  induction h with
  | nil => exact absurd hc List.not_mem_nil
  | cons digit _ _ ih =>
    rcases List.mem_cons.mp hc with rfl | hc
    · exact isHexDigit_iff.mpr ⟨_, digit⟩
    · exact ih hc

/-- A character that is no digit is not in digits. -/
theorem notMem_of_digits {base n : Nat} {text : Text} (digits : Digits base text n) {c : Char}
    (hc : isHexDigit c = false) : c ∉ text := by
  intro hmem
  rw [digits.isHexDigit_of_mem hmem] at hc
  exact Bool.noConfusion hc

/-- `unprefixed? text = none`: digits have no mark in front that could be taken off. -/
theorem unprefixed?_of_digits {base n : Nat} {text : Text} (h : Digits base text n) :
    unprefixed? text = none := by
  unfold unprefixed?
  split
  · exact absurd (h.isHexDigit_of_mem (c := 'x') (by simp)) (by decide)
  · exact absurd (h.isHexDigit_of_mem (c := 'X') (by simp)) (by decide)
  · rfl

/-- `(∃ n, Digits 16 text n) ↔ ∀ c ∈ text, isHexDigit c = true`: every text of hexadecimal digits
stands for a number. -/
theorem exists_digits_iff {text : Text} :
    (∃ n, Digits 16 text n) ↔ ∀ c ∈ text, isHexDigit c = true := by
  constructor
  · rintro ⟨n, h⟩ c hc
    exact h.isHexDigit_of_mem hc
  · intro h
    induction text with
    | nil => exact ⟨0, .nil⟩
    | cons c rest ih =>
      obtain ⟨hc, hrest⟩ := List.forall_mem_cons.mp h
      obtain ⟨d, digit⟩ := isHexDigit_iff.mp hc
      obtain ⟨n, digits⟩ := ih hrest
      exact ⟨_, .cons digit digit.lt_sixteen digits⟩

/-! ## Reading digits into a word -/

variable {w base digit : Nat}

/-- One more digit is added to the word as long as the word can hold the result. -/
theorem push?_of_lt {acc : BitVec w} (hbase : base < 2 ^ w)
    (h : acc.toNat * base + digit < 2 ^ w) :
    push? base acc digit = some (BitVec.ofNat w (acc.toNat * base + digit)) := by
  have hmul : acc.toNat * base < 2 ^ w := by omega
  have hdigit : digit < 2 ^ w := by omega
  have hno : acc.umulOverflow (BitVec.ofNat w base) = false := by
    simp [BitVec.umulOverflow, Nat.mod_eq_of_lt hbase, hmul]
  have hno' : (acc * BitVec.ofNat w base).uaddOverflow (BitVec.ofNat w digit) = false := by
    simp [BitVec.uaddOverflow, Nat.mod_eq_of_lt hbase, Nat.mod_eq_of_lt hmul,
      Nat.mod_eq_of_lt hdigit, h]
  have hsum : acc * BitVec.ofNat w base + BitVec.ofNat w digit =
      BitVec.ofNat w (acc.toNat * base + digit) := by
    apply BitVec.eq_of_toNat_eq
    simp
  simp [push?, hno, hno', hsum]

/-- `push? base acc digit = none`: one more digit overflows as soon as the word cannot hold the
result. -/
theorem push?_of_le {acc : BitVec w} (hbase : base < 2 ^ w) (hdigit : digit < 2 ^ w)
    (h : 2 ^ w ≤ acc.toNat * base + digit) : push? base acc digit = none := by
  -- the word overflows when it is multiplied, or else when the digit is added
  by_cases hmul : acc.toNat * base < 2 ^ w
  · have hno : acc.umulOverflow (BitVec.ofNat w base) = false := by
      simp [BitVec.umulOverflow, Nat.mod_eq_of_lt hbase, hmul]
    have hover : (acc * BitVec.ofNat w base).uaddOverflow (BitVec.ofNat w digit) = true := by
      simp [BitVec.uaddOverflow, Nat.mod_eq_of_lt hbase, Nat.mod_eq_of_lt hmul,
        Nat.mod_eq_of_lt hdigit, h]
    simp [push?, hno, hover]
  · have hover : acc.umulOverflow (BitVec.ofNat w base) = true := by
      simp [BitVec.umulOverflow, Nat.mod_eq_of_lt hbase, Nat.le_of_not_lt hmul]
    simp [push?, hover]

/-- Digits are read into a word after `acc` exactly if the word can hold the number that all the
digits stand for; otherwise the reading overflows at one of them. -/
theorem accumulate_of_digits {n : Nat} {text : Text} (hbase : base < 2 ^ w)
    (digits : Digits base text n) (acc : BitVec w) :
    accumulate base acc text =
      if acc.toNat * base ^ text.length + n < 2 ^ w then
        .ok (BitVec.ofNat w (acc.toNat * base ^ text.length + n))
      else .error .overflow := by
  induction digits generalizing acc with
  | nil =>
    have hacc : acc.toNat < 2 ^ w := acc.isLt
    simp [hacc]
  | @cons c d n rest hdigit hlt digits ih =>
    have hread : digit? base c = some d := digit?_of_hexDigit hdigit hlt
    -- with the digit in the word, what is left to read has the number of the other digits
    have hregroup : acc.toNat * base ^ (rest.length + 1) + (d * base ^ rest.length + n) =
        (acc.toNat * base + d) * base ^ rest.length + n := by ring
    rw [List.length_cons, hregroup]
    by_cases hfits : acc.toNat * base + d < 2 ^ w
    · rw [accumulate_cons_of_push hread (push?_of_lt hbase hfits), ih, BitVec.toNat_ofNat,
        Nat.mod_eq_of_lt hfits]
    · -- what has outgrown the word stays too large whatever digits follow
      have hlarge : 2 ^ w ≤ (acc.toNat * base + d) * base ^ rest.length + n := by
        have hpos : 0 < base ^ rest.length := Nat.pow_pos (Nat.lt_of_le_of_lt (Nat.zero_le d) hlt)
        calc 2 ^ w ≤ acc.toNat * base + d := Nat.le_of_not_lt hfits
          _ ≤ (acc.toNat * base + d) * base ^ rest.length := Nat.le_mul_of_pos_right _ hpos
          _ ≤ (acc.toNat * base + d) * base ^ rest.length + n := Nat.le_add_right _ _
      rw [if_neg (Nat.not_lt.mpr hlarge), accumulate, hread]
      simp only [push?_of_le hbase (hlt.trans hbase) (Nat.le_of_not_lt hfits)]

/-- `unsigned text = text`: digits have no sign in front of them. -/
theorem unsigned_of_digits {n : Nat} {text : Text} (digits : Digits base text n) :
    unsigned text = text := by
  cases digits with
  | nil => rfl
  | @cons c d _ rest hdigit _ _ =>
    have hc : c ≠ '+' := by
      rintro rfl
      exact absurd (hexDigit?_eq_some_iff.mpr hdigit) (by simp [hexDigit?])
    unfold unsigned
    split
    · next heq => exact absurd (List.cons.inj heq).1 hc
    · rfl

/-- A numeral of digits is the word with their number, if there is such a word. -/
theorem read_of_digits {n : Nat} {text : Text} (hbase : base < 2 ^ w) (hne : text ≠ [])
    (digits : Digits base text n) :
    read w base text = if n < 2 ^ w then .ok (BitVec.ofNat w n) else .error .overflow := by
  have hread := accumulate_of_digits hbase digits 0
  rw [read, if_neg (by simpa using hne), unsigned_of_digits digits, hread]
  simp

end RomCompiler.Numeral
