import RomCompiler.Word

/-! # Words byte by byte

Writing a word changes the two bytes at its offset and nothing else, and it can be written exactly
where both of these bytes are.
* **`Word.put?_eq_some_iff`** — when a word can be written.
* **`Word.getElem?_of_put?`** — each byte of the memory after that.
* **`Word.put?_append_cons_cons`** — the memory after that, cut at the word.
* **`Word.toNat_low`**, **`Word.toNat_high`**, **`Word.toNat_join`** — the numbers of the bytes of a
  word, and of a word of two bytes.
* **`Word.join_low_high`**, **`Word.get?_of_put?`** — a word is made up of its bytes, and read where
  it was written.
* **`Word.get?_eq_some_iff`**, **`Word.exists_get?_iff`** — the word that is read, and when there is
  one.
* **`Word.put?_eq_self`**, **`Word.put?_append_of_put?`** — writing a word that is there already
  changes nothing, also with more bytes after it. -/

namespace RomCompiler.Word

variable {memory after : Bytes} {offset : Nat} {word : UInt16}

/-- **A word can be written if both of its bytes are in the memory.** -/
theorem put?_eq_some_iff : put? memory offset word = some after ↔
    offset + 2 ≤ memory.length ∧
      after = (memory.set offset (low word)).set (offset + 1) (high word) := by
  unfold put?
  split
  · next hfits =>
    constructor
    · intro h
      exact ⟨hfits, (Option.some.inj h).symm⟩
    · rintro ⟨-, rfl⟩
      rfl
  · next hfits =>
    constructor
    · intro h
      exact absurd h (by simp)
    · rintro ⟨hle, -⟩
      exact absurd hle hfits

/-- **Each byte after a word is written: the two bytes of the word, and all others as before.** -/
theorem getElem?_of_put? (h : put? memory offset word = some after) (i : Nat) :
    after[i]? = if i = offset then some (low word) else
      if i = offset + 1 then some (high word) else memory[i]? := by
  obtain ⟨hfits, rfl⟩ := put?_eq_some_iff.mp h
  by_cases hlow : i = offset
  · have hne : offset + 1 ≠ i := by omega
    have hlt : offset < memory.length := by omega
    rw [if_pos hlow, List.getElem?_set_ne hne, hlow, List.getElem?_set_self hlt]
  · rw [if_neg hlow]
    by_cases hhigh : i = offset + 1
    · have hlt : offset + 1 < (memory.set offset (low word)).length := by
        rw [List.length_set]
        omega
      rw [if_pos hhigh, hhigh, List.getElem?_set_self hlt]
    · rw [if_neg hhigh, List.getElem?_set_ne (Ne.symm hhigh), List.getElem?_set_ne (Ne.symm hlow)]

/-- A word takes the places of the two bytes that come after `front`. -/
theorem put?_append_cons_cons (front back : Bytes) (first second : UInt8) (word : UInt16) :
    put? (front ++ first :: second :: back) front.length word =
      some (front ++ low word :: high word :: back) := by
  have hfits : front.length + 2 ≤ (front ++ first :: second :: back).length := by
    simp
  refine put?_eq_some_iff.mpr ⟨hfits, ?_⟩
  rw [List.set_append_right _ _ (Nat.le_refl _), List.set_append_right _ _ (Nat.le_succ _),
    Nat.sub_self, Nat.succ_sub (Nat.le_refl _), Nat.sub_self]
  rfl

/-- **The low byte of a word is what is left of it modulo 256**:
`(low word).toNat = word.toNat % 256`. -/
theorem toNat_low (word : UInt16) : (low word).toNat = word.toNat % 256 :=
  UInt16.toNat_toUInt8 word

/-- **The high byte of a word is how many times 256 goes into it**:
`(high word).toNat = word.toNat / 256`. -/
theorem toNat_high (word : UInt16) : (high word).toNat = word.toNat / 256 := by
  have hlt : word.toNat / 256 < 256 := Nat.div_lt_of_lt_mul word.toNat_lt
  calc (high word).toNat = word.toNat >>> 8 % 256 := by
        rw [high, UInt16.toNat_toUInt8, UInt16.toNat_shiftRight]
        rfl
    _ = word.toNat / 256 := by
        rw [Nat.shiftRight_eq_div_pow, Nat.mod_eq_of_lt hlt]

/-- **In the word of two bytes the high one counts 256 times**:
`(join low high).toNat = low.toNat + 256 * high.toNat`. -/
theorem toNat_join (low high : UInt8) : (join low high).toNat = low.toNat + 256 * high.toNat := by
  have hlow : low.toNat < 2 ^ 8 := low.toNat_lt
  have hhigh : high.toNat <<< 8 < 2 ^ 16 := by
    have hlt : high.toNat < 2 ^ 8 := high.toNat_lt
    rw [Nat.shiftLeft_eq]
    omega
  calc (join low high).toNat = low.toNat ||| high.toNat <<< 8 % 2 ^ 16 := by
        rw [join, UInt16.toNat_or, UInt16.toNat_shiftLeft, UInt8.toNat_toUInt16,
          UInt8.toNat_toUInt16]
        rfl
    _ = high.toNat <<< 8 + low.toNat := by
        -- no bit is set in both bytes, so they are joined as they are added
        rw [Nat.mod_eq_of_lt hhigh, Nat.or_comm, Nat.shiftLeft_add_eq_or_of_lt hlow]
    _ = low.toNat + 256 * high.toNat := by
        rw [Nat.shiftLeft_eq]
        omega

/-- **A word is made up of its two bytes**: `join (low word) (high word) = word`. -/
theorem join_low_high (word : UInt16) : join (low word) (high word) = word := by
  apply UInt16.toNat_inj.mp
  rw [toNat_join, toNat_low, toNat_high, Nat.mod_add_div]

/-- **A word is read if it is made up of the bytes at its offset and right after it.** -/
theorem get?_eq_some_iff : get? memory offset = some word ↔
    ∃ low high, memory[offset]? = some low ∧ memory[offset + 1]? = some high ∧
      join low high = word := by
  simp [get?, Option.bind_eq_some_iff]

/-- **A word can be read if both of its bytes are in the memory.** -/
theorem exists_get?_iff : (∃ word, get? memory offset = some word) ↔
    offset + 2 ≤ memory.length := by
  constructor
  · rintro ⟨word, hget⟩
    obtain ⟨low, high, -, hhigh, -⟩ := get?_eq_some_iff.mp hget
    obtain ⟨hlt, -⟩ := List.getElem?_eq_some_iff.mp hhigh
    exact hlt
  · intro hfits
    have hlow : offset < memory.length := by omega
    exact ⟨_, get?_eq_some_iff.mpr
      ⟨_, _, List.getElem?_eq_getElem hlow, List.getElem?_eq_getElem hfits, rfl⟩⟩

/-- **A word is read where it was written**: `get? after offset = some word`. -/
theorem get?_of_put? (h : put? memory offset word = some after) :
    get? after offset = some word := by
  have hlow : after[offset]? = some (low word) := by
    rw [getElem?_of_put? h, if_pos rfl]
  have hhigh : after[offset + 1]? = some (high word) := by
    rw [getElem?_of_put? h, if_neg (Nat.succ_ne_self offset), if_pos rfl]
  rw [get?, hlow, hhigh]
  exact congrArg some (join_low_high word)

/-- **Where the bytes of a word are there already, writing it changes nothing**:
`put? memory offset word = some memory`. -/
theorem put?_eq_self (hlow : memory[offset]? = some (low word))
    (hhigh : memory[offset + 1]? = some (high word)) : put? memory offset word = some memory := by
  obtain ⟨hlt, -⟩ := List.getElem?_eq_some_iff.mp hhigh
  obtain ⟨after, hput⟩ : ∃ after, put? memory offset word = some after :=
    ⟨_, put?_eq_some_iff.mpr ⟨hlt, rfl⟩⟩
  have hsame : after = memory := by
    apply List.ext_getElem?
    intro i
    rw [getElem?_of_put? hput]
    split
    · next heq => rw [heq, hlow]
    · split
      · next heq => rw [heq, hhigh]
      · rfl
  rw [hput, hsame]

/-- **A word is written in vain where it was written before, also with more bytes after it**:
`put? (after ++ more) offset word = some (after ++ more)`. -/
theorem put?_append_of_put? (h : put? memory offset word = some after) (more : Bytes) :
    put? (after ++ more) offset word = some (after ++ more) := by
  have hfits := (put?_eq_some_iff.mp h).1
  have hlength := length_of_put? h
  apply put?_eq_self
  · rw [List.getElem?_append_left (by omega), getElem?_of_put? h, if_pos rfl]
  · rw [List.getElem?_append_left (by omega), getElem?_of_put? h, if_neg (by omega),
      if_pos rfl]

end RomCompiler.Word
