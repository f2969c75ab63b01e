import RomCompiler.Proofs.Numeral.Positional

/-! # Numbers as they are written

A number is written with the fewest digits of a base, and perhaps with zeros in front of them to
fill a column. Either way the digits stand for this number, and their letters are small.
* **`digits_append`** — digits after others move those up by their own places.
* **`digits_toDigits`** — the written form of a number stands for it.
* **`digits_zeros_append`**, **`digits_leftpad`** — zeros in front of digits do not count.
* **`Column`**, **`column_leftpad`** — a number that is written to fill a column. -/

namespace RomCompiler.Numeral

variable {base : Nat}

/-- `HexDigit d.digitChar d`: a value below sixteen is written as a digit of that value. -/
theorem hexDigit_digitChar {d : Nat} (h : d < 16) : HexDigit d.digitChar d := by
  rw [← hexDigit?_eq_some_iff]
  interval_cases d <;> decide

/-- `Digits base [c] d`: one digit stands for its value. -/
theorem digits_singleton {d : Nat} {c : Char} (digit : HexDigit c d) (lt_base : d < base) :
    Digits base [c] d := by
  simpa using Digits.cons digit lt_base Digits.nil

/-- **Digits that come after others move those up by as many places as they take**:
`Digits base (front ++ back) (m * base ^ back.length + n)`. -/
theorem digits_append {front back : Text} {m n : Nat} (hfront : Digits base front m)
    (hback : Digits base back n) :
    Digits base (front ++ back) (m * base ^ back.length + n) := by
  induction hfront with
  | nil => simpa using hback
  | @cons c d k rest digit lt_base _ ih =>
    have hregroup : (d * base ^ rest.length + k) * base ^ back.length + n =
        d * base ^ (rest ++ back).length + (k * base ^ back.length + n) := by
      rw [List.length_append]
      ring
    rw [List.cons_append, hregroup]
    exact .cons digit lt_base ih

/-- **The written form of a number stands for it**: `Digits base (Nat.toDigits base n) n`. -/
theorem digits_toDigits (hbase : 1 < base) (hle : base ≤ 16) (n : Nat) :
    Digits base (Nat.toDigits base n) n := by
  induction n using Nat.strong_induction_on with
  | _ n ih =>
    rw [Nat.toDigits_eq_if hbase]
    split
    · next hlt => exact digits_singleton (hexDigit_digitChar (hlt.trans_le hle)) hlt
    · next hge =>
      have hshorter : n / base < n := Nat.div_lt_self (by omega) hbase
      have hlast : n % base < base := Nat.mod_lt n (by omega)
      have hboth := digits_append (ih _ hshorter)
        (digits_singleton (hexDigit_digitChar (hlast.trans_le hle)) hlast)
      -- quotient and remainder by the base make up the number again
      rwa [List.length_singleton, pow_one, Nat.div_add_mod'] at hboth

/-- `Digits base (List.replicate count '0') 0`: zeros alone stand for nought. -/
theorem digits_replicate_zero (hbase : 0 < base) (count : Nat) :
    Digits base (List.replicate count '0') 0 := by
  have hzero : HexDigit '0' 0 := hexDigit?_eq_some_iff.mp (by decide)
  induction count with
  | zero => exact .nil
  | succ count ih =>
    have hcons := Digits.cons hzero hbase ih
    rwa [Nat.zero_mul, Nat.zero_add, ← List.replicate_succ] at hcons

/-- **Digits with zeros in front of them stand for the same number**:
`Digits base (List.replicate count '0' ++ text) n`. -/
theorem digits_zeros_append {text : Text} {n : Nat} (hbase : 0 < base) (digits : Digits base text n)
    (count : Nat) : Digits base (List.replicate count '0' ++ text) n := by
  have hboth := digits_append (digits_replicate_zero hbase count) digits
  rwa [Nat.zero_mul, Nat.zero_add] at hboth

/-- **Digits that are filled up with zeros to some width stand for the same number**:
`Digits base (text.leftpad width '0') n`. -/
theorem digits_leftpad {text : Text} {n : Nat} (hbase : 0 < base) (digits : Digits base text n)
    (width : Nat) : Digits base (text.leftpad width '0') n :=
  digits_zeros_append hbase digits (width - text.length)

/-! ## Columns of digits -/

/-- **A number in hexadecimal digits that fill a column of some width**: `Column width text n`. Only
a number that needs more digits goes beyond it. -/
structure Column (width : Nat) (text : Text) (n : Nat) : Prop where
  /-- The digits stand for the number. -/
  digits : Digits 16 text n
  /-- Letters are small. -/
  isUpper_eq : ∀ c ∈ text, c.isUpper = false
  /-- The column is filled. -/
  le_length : width ≤ text.length
  /-- Beyond the column there is no zero in front. -/
  head?_ne : width < text.length → text.head? ≠ some '0'

/-- `d.digitChar.isUpper = false`: a digit is written with a small letter, if with any. -/
theorem isUpper_digitChar {d : Nat} (h : d < 16) : d.digitChar.isUpper = false := by
  interval_cases d <;> decide

/-- `c.isUpper = false`: a number is written with small letters. -/
theorem isUpper_of_mem_toDigits (hbase : 1 < base) (hle : base ≤ 16) {n : Nat} {c : Char}
    (h : c ∈ Nat.toDigits base n) : c.isUpper = false := by
  induction n using Nat.strong_induction_on with
  | _ n ih =>
    rw [Nat.toDigits_eq_if hbase] at h
    split at h
    · next hlt =>
      rw [List.mem_singleton.mp h]
      exact isUpper_digitChar (hlt.trans_le hle)
    · next hge =>
      rcases List.mem_append.mp h with hfront | hlast
      · exact ih _ (Nat.div_lt_self (by omega) hbase) hfront
      · rw [List.mem_singleton.mp hlast]
        exact isUpper_digitChar ((Nat.mod_lt n (by omega)).trans_le hle)

/-- `(Nat.toDigits base n).head? ≠ some '0'`: only nought is written with a zero in front. -/
theorem head?_toDigits_ne (hbase : 1 < base) (hle : base ≤ 16) {n : Nat} (h : n ≠ 0) :
    (Nat.toDigits base n).head? ≠ some '0' := by
  induction n using Nat.strong_induction_on with
  | _ n ih =>
    rw [Nat.toDigits_eq_if hbase]
    split
    · next hlt =>
      have hn : n < 16 := hlt.trans_le hle
      interval_cases n
      · exact absurd rfl h
      all_goals decide
    · next hge =>
      -- the first digit is that of a smaller number, which is not nought either
      have hshorter : n / base < n := Nat.div_lt_self (by omega) hbase
      have hpos : n / base ≠ 0 := Nat.div_ne_zero_iff.mpr ⟨by omega, Nat.le_of_not_lt hge⟩
      rw [List.head?_append, Option.or_of_isSome (by simp [Nat.toDigits_ne_nil])]
      exact ih _ hshorter hpos

/-- `((Nat.toDigits 16 n).leftpad width '0').length = width`: a number that needs no more digits
than a column has fills it exactly. -/
theorem length_leftpad_toDigits {width n : Nat} (hwidth : 0 < width) (h : n < 16 ^ width) :
    ((Nat.toDigits 16 n).leftpad width '0').length = width := by
  have hle : (Nat.toDigits 16 n).length ≤ width :=
    (Nat.length_toDigits_le_iff (by decide) hwidth).mpr h
  rw [List.length_leftpad, Nat.max_eq_left hle]

/-- **A number with zeros in front of it fills a column**:
`Column width ((Nat.toDigits 16 n).leftpad width '0') n`. -/
theorem column_leftpad {width : Nat} (hwidth : 0 < width) (n : Nat) :
    Column width ((Nat.toDigits 16 n).leftpad width '0') n where
  digits := digits_leftpad (by decide) (digits_toDigits (by decide) (by decide) n) width
  isUpper_eq := by
    intro c hc
    rw [List.leftpad, List.mem_append] at hc
    rcases hc with hzero | hdigit
    · rw [List.eq_of_mem_replicate hzero]
      decide
    · exact isUpper_of_mem_toDigits (by decide) (by decide) hdigit
  le_length := by
    rw [List.length_leftpad]
    exact Nat.le_max_left _ _
  head?_ne := by
    intro hlong
    rw [List.length_leftpad, lt_max_iff] at hlong
    have hdigits : width < (Nat.toDigits 16 n).length := hlong.resolve_left (lt_irrefl width)
    have hzeros : width - (Nat.toDigits 16 n).length = 0 := Nat.sub_eq_zero_of_le hdigits.le
    rw [List.leftpad, hzeros, List.replicate_zero, List.nil_append]
    -- nought has one digit, which does not go beyond any column
    refine head?_toDigits_ne (by decide) (by decide) ?_
    rintro rfl
    rw [Nat.toDigits_zero, List.length_singleton] at hdigits
    omega

end RomCompiler.Numeral
