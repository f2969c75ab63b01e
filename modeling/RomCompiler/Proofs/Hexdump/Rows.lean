import RomCompiler.Hexdump

/-! # The rows of a hexdump

The bytes are cut into rows from the left, each of them full but perhaps the last.
* **`rows_of_ne_nil`** — the first row, and the rows of what is left without it.
* **`flatten_rows`** — the rows together are the bytes.
* **`ne_nil_of_mem_rows`**, **`length_le_of_mem_rows`**, **`length_eq_of_mem_dropLast_rows`** — how
  long a row is. -/

namespace RomCompiler.Hexdump

/-- No bytes are no rows. -/
@[simp] theorem rows_nil : rows [] = [] := rfl

/-- A row that is cut out of all bytes by its number. -/
theorem rows_eq_map (bytes : Bytes) :
    rows bytes = (List.range ((bytes.length + (rowLength - 1)) / rowLength)).map fun i =>
      (bytes.drop (i * rowLength)).take rowLength := by
  rw [rows]
  simp only [List.size_toArray]
  apply List.map_congr_left
  intro i _
  have hlength : (i + 1) * rowLength - i * rowLength = rowLength := by
    rw [Nat.add_mul, Nat.one_mul, Nat.add_sub_cancel_left]
  rw [Array.toList_extract, List.extract_eq_take_drop, hlength]

/-- **The first row takes as many bytes as it can, and the others are those of what is left.** -/
theorem rows_of_ne_nil {bytes : Bytes} (h : bytes ≠ []) :
    rows bytes = bytes.take rowLength :: rows (bytes.drop rowLength) := by
  have hpos : 0 < bytes.length := List.length_pos_iff.mpr h
  have hcount : (bytes.length + (rowLength - 1)) / rowLength =
      ((bytes.drop rowLength).length + (rowLength - 1)) / rowLength + 1 := by
    rw [List.length_drop]
    simp only [rowLength]
    omega
  rw [rows_eq_map, rows_eq_map, hcount, List.range_succ_eq_map, List.map_cons, List.map_map,
    Nat.zero_mul, List.drop_zero]
  congr 1
  apply List.map_congr_left
  intro i _
  rw [Function.comp_apply, List.drop_drop, Nat.succ_mul, Nat.add_comm]

/-- What holds of no bytes, and of a row before any bytes of which it holds, holds of all bytes. -/
@[elab_as_elim] theorem rowInduction {motive : Bytes → Prop} (nil : motive [])
    (step : ∀ bytes, bytes ≠ [] → motive (bytes.drop rowLength) → motive bytes) (bytes : Bytes) :
    motive bytes := by
  by_cases h : bytes = []
  · rw [h]
    exact nil
  · have hpos : 0 < bytes.length := List.length_pos_iff.mpr h
    have hshorter : bytes.length - rowLength < bytes.length := by
      rw [rowLength]
      omega
    exact step bytes h (rowInduction nil step _)
termination_by bytes.length

/-- **The rows together are the bytes**: `(rows bytes).flatten = bytes`. -/
theorem flatten_rows (bytes : Bytes) : (rows bytes).flatten = bytes := by
  induction bytes using rowInduction with
  | nil => rfl
  | step bytes h ih => rw [rows_of_ne_nil h, List.flatten_cons, ih, List.take_append_drop]

/-- **There is something in every row.** -/
theorem ne_nil_of_mem_rows {bytes row : Bytes} (h : row ∈ rows bytes) : row ≠ [] := by
  induction bytes using rowInduction with
  | nil => exact absurd h List.not_mem_nil
  | step bytes hne ih =>
    rw [rows_of_ne_nil hne] at h
    rcases List.mem_cons.mp h with rfl | h
    · have hrow : rowLength ≠ 0 := by decide
      simp [hne, hrow]
    · exact ih h

/-- **No row is longer than a full one**: `row.length ≤ rowLength`. -/
theorem length_le_of_mem_rows {bytes row : Bytes} (h : row ∈ rows bytes) :
    row.length ≤ rowLength := by
  induction bytes using rowInduction with
  | nil => exact absurd h List.not_mem_nil
  | step bytes hne ih =>
    rw [rows_of_ne_nil hne] at h
    rcases List.mem_cons.mp h with rfl | h
    · exact List.length_take_le _ _
    · exact ih h

/-- **Every row but the last is full**: `row.length = rowLength`. -/
theorem length_eq_of_mem_dropLast_rows {bytes row : Bytes} (h : row ∈ (rows bytes).dropLast) :
    row.length = rowLength := by
  induction bytes using rowInduction with
  | nil => exact absurd h List.not_mem_nil
  | step bytes hne ih =>
    rw [rows_of_ne_nil hne] at h
    -- there is another row only where the first one has left something
    by_cases hrest : bytes.drop rowLength = []
    · rw [hrest, rows_nil] at h
      exact absurd h List.not_mem_nil
    · have hlonger : rowLength < bytes.length := by simpa using hrest
      have hrows : rows (bytes.drop rowLength) ≠ [] := by
        rw [rows_of_ne_nil hrest]
        exact List.cons_ne_nil _ _
      rw [List.dropLast_cons_of_ne_nil hrows] at h
      rcases List.mem_cons.mp h with rfl | h
      · rw [List.length_take]
        omega
      · exact ih h

end RomCompiler.Hexdump
