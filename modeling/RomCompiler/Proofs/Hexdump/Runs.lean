import Mathlib.Data.List.Chain
import Mathlib.Data.List.SplitBy
import RomCompiler.Proofs.Hexdump.Rows

/-! # Runs of equal rows

The lines of a hexdump can be told from the runs of its rows: a run is shown by its first row, and a
star if there are more rows in it. The one pass that writes the lines does not know the runs, but
what it keeps in mind is enough: the row of the run it is in, and whether the star is out.
* **`IsCut`** — bytes in rows of sixteen, which are those of **`rows`** and no others
  (`isCut_iff`).
* **`runLines`**, **`viewFrom`**, **`view`** — the lines of a run, of one run after the other, and
  of all bytes.
* **`foldl_push_run`**, **`shown_foldl_push_runs`** — the pass over one run and over several.
* **`layout_eq_view`** — the lines of a hexdump are those of the runs. -/

namespace RomCompiler.Hexdump

/-- **The bytes are cut into rows of sixteen**: with `IsCut bytes cut` only what is left at the end
is a shorter row. -/
structure IsCut (bytes : Bytes) (cut : List Bytes) : Prop where
  /-- The rows together are the bytes. -/
  flatten_eq : cut.flatten = bytes
  /-- Every row but the last is full. -/
  length_eq : ∀ row ∈ cut.dropLast, row.length = 16
  /-- The last row is not longer. -/
  length_le : ∀ row ∈ cut, row.length ≤ 16
  /-- There is something in every row. -/
  ne_nil : ∀ row ∈ cut, row ≠ []

/-- **The lines of a run of equal rows**, of which the first has the number `first`. -/
def runLines (first : Nat) : List Bytes → List Line
  | [] => []
  | [row] => [.row (16 * first) row]
  | row :: _ :: _ => [.row (16 * first) row, .repeated]

/-- The lines of runs that follow each other, from the row with the number `first` on, by
`runLines`. -/
def viewFrom (first : Nat) : List (List Bytes) → List Line
  | [] => []
  | run :: runs => runLines first run ++ viewFrom (first + run.length) runs

/-- **The lines of bytes that are cut into rows**: those of the longest runs of equal rows
(`List.splitBy`), and that of the length unless there are no bytes. -/
def view (bytes : Bytes) (cut : List Bytes) : List Line :=
  viewFrom 0 (cut.splitBy (· == ·)) ++ if bytes = [] then [] else [.total bytes.length]

/-! ## Cutting bytes into rows -/

/-- `IsCut bytes (rows bytes)`: the rows of a hexdump are a cut. -/
theorem isCut_rows (bytes : Bytes) : IsCut bytes (rows bytes) where
  flatten_eq := flatten_rows bytes
  length_eq _ := length_eq_of_mem_dropLast_rows
  length_le _ := length_le_of_mem_rows
  ne_nil _ := ne_nil_of_mem_rows

/-- `cut = rows bytes`: there is no other cut than the rows of a hexdump. -/
theorem IsCut.eq_rows {bytes : Bytes} {cut : List Bytes} (h : IsCut bytes cut) :
    cut = rows bytes := by
  induction cut generalizing bytes with
  | nil =>
    rw [← h.flatten_eq]
    rfl
  | cons row rest ih =>
    have hbytes : bytes = row ++ rest.flatten := by
      rw [← h.flatten_eq, List.flatten_cons]
    have hrow : row ≠ [] := h.ne_nil row List.mem_cons_self
    have hle : row.length ≤ rowLength := h.length_le row List.mem_cons_self
    have hne : bytes ≠ [] := by
      rw [hbytes]
      exact List.append_ne_nil_of_left_ne_nil hrow _
    -- the first row is full, or else nothing comes after it
    have hcut : bytes.take rowLength = row ∧ bytes.drop rowLength = rest.flatten := by
      rcases rest with _ | ⟨next, rest⟩
      · rw [hbytes, List.flatten_nil, List.append_nil]
        exact ⟨List.take_of_length_le hle, List.drop_of_length_le hle⟩
      · have hfull : row.length = rowLength := h.length_eq row (by simp)
        rw [hbytes, ← hfull]
        exact ⟨List.take_left, List.drop_left⟩
    have hrest : IsCut rest.flatten rest := by
      refine ⟨rfl, ?_, ?_, ?_⟩
      · intro other hother
        refine h.length_eq other ?_
        rcases rest with _ | ⟨next, rest⟩
        · exact absurd hother List.not_mem_nil
        · exact List.mem_cons_of_mem row hother
      · intro other hother
        exact h.length_le other (List.mem_cons_of_mem row hother)
      · intro other hother
        exact h.ne_nil other (List.mem_cons_of_mem row hother)
    rw [rows_of_ne_nil hne, hcut.1, hcut.2, ← ih hrest]

/-- `IsCut bytes cut ↔ cut = rows bytes`: the rows of a hexdump are the only cut. -/
theorem isCut_iff {bytes : Bytes} {cut : List Bytes} : IsCut bytes cut ↔ cut = rows bytes := by
  constructor
  · intro h
    exact h.eq_rows
  · rintro rfl
    exact isCut_rows bytes

/-! ## One run -/

variable {state : Squeezer} {row : Bytes}

/-- Further rows of a run are covered by one star: the first of them puts it out, and it is never
put out twice. -/
theorem foldl_push_replicate (hlast : state.last = some row) (count number : Nat) :
    ((List.replicate count row).zipIdx number).foldl Squeezer.push state =
      if count = 0 ∨ state.squeezed then state
      else ⟨.repeated :: state.shown, some row, true⟩ := by
  induction count generalizing state number with
  | zero => simp
  | succ count ih =>
    rw [List.replicate_succ, List.zipIdx_cons, List.foldl_cons]
    by_cases hsqueezed : state.squeezed
    · have hpush : state.push (row, number) = state := by
        rw [Squeezer.push, if_pos hlast, if_pos hsqueezed]
      rw [hpush, ih hlast, if_pos (.inr hsqueezed), if_pos (.inr hsqueezed)]
    · have hpush : state.push (row, number) = ⟨.repeated :: state.shown, some row, true⟩ := by
        rw [Squeezer.push, if_pos hlast, if_neg hsqueezed, ← hlast]
      rw [hpush, ih rfl, if_pos (.inr rfl), if_neg (by simp [hsqueezed])]

/-- **A run that differs from what is before it is shown by its lines.** After it the pass has its
row in mind, and knows that there is a star if the run has more than one row. -/
theorem foldl_push_run (hlast : state.last ≠ some row) (more number : Nat) :
    ((List.replicate (more + 1) row).zipIdx number).foldl Squeezer.push state =
      ⟨(runLines number (List.replicate (more + 1) row)).reverse ++ state.shown, some row,
        decide (more ≠ 0)⟩ := by
  have hpush : state.push (row, number) =
      ⟨.row (number * rowLength) row :: state.shown, some row, false⟩ := by
    rw [Squeezer.push, if_neg hlast]
  have hoffset : number * rowLength = 16 * number := Nat.mul_comm number 16
  rw [List.replicate_succ, List.zipIdx_cons, List.foldl_cons, hpush, foldl_push_replicate rfl,
    hoffset]
  rcases more with _ | more
  · rfl
  · rfl

/-! ## One run after the other -/

/-- **The pass over runs shows the lines of each of them.** No run goes on in the next one, and the
first does not go on with the row before it. -/
theorem shown_foldl_push_runs {runs : List (List Bytes)}
    (hruns : ∀ run ∈ runs, ∃ row more, run = List.replicate (more + 1) row)
    (hchain : runs.IsChain fun run next => run.getLast? ≠ next.head?)
    (hhead : ∀ run ∈ runs.head?, state.last ≠ run.head?) (number : Nat) :
    ((runs.flatten.zipIdx number).foldl Squeezer.push state).shown =
      (viewFrom number runs).reverse ++ state.shown := by
  induction runs generalizing state number with
  | nil => rfl
  | cons run runs ih =>
    obtain ⟨⟨row, more, rfl⟩, hothers⟩ := List.forall_mem_cons.mp hruns
    obtain ⟨hnext, hrest⟩ := List.isChain_cons.mp hchain
    have hlast : state.last ≠ some row := hhead _ rfl
    have hlastRow : (List.replicate (more + 1) row).getLast? = some row := by
      rw [List.replicate_succ', List.getLast?_concat]
    -- the row that is kept in mind after the run is its last one, which the next run differs from
    have hstart : ∀ next ∈ runs.head?, some row ≠ next.head? := by
      intro next hmem
      rw [← hlastRow]
      exact hnext next hmem
    rw [List.flatten_cons, List.zipIdx_append, List.foldl_append, foldl_push_run hlast,
      ih hothers hrest hstart, viewFrom, List.reverse_append, List.append_assoc]

/-- `∃ row more, run = List.replicate (more + 1) row`: a longest run of equal rows is one row, some
number of times. -/
theorem eq_replicate_of_mem_splitBy {rows run : List Bytes} (h : run ∈ rows.splitBy (· == ·)) :
    ∃ row more, run = List.replicate (more + 1) row := by
  obtain ⟨row, others, rfl⟩ := List.exists_cons_of_ne_nil (List.ne_nil_of_mem_splitBy h)
  have hequal : (row :: others).IsChain (· = ·) := by
    simpa using List.isChain_of_mem_splitBy h
  exact ⟨row, others.length, List.isChain_eq_iff_eq_replicate.mp hequal row rfl⟩

/-- No longest run goes on in the next one. -/
theorem isChain_splitBy (rows : List Bytes) :
    (rows.splitBy (· == ·)).IsChain fun run next => run.getLast? ≠ next.head? := by
  refine (List.isChain_getLast_head_splitBy _ rows).imp ?_
  rintro run next ⟨hrun, hnext, hdiffers⟩ heq
  rw [List.getLast?_eq_some_getLast hrun, List.head?_eq_some_head hnext] at heq
  simp [Option.some.inj heq] at hdiffers

/-- **The lines of a hexdump are those of the longest runs of its rows, and that of the length**:
`layout bytes = view bytes (rows bytes)`. -/
theorem layout_eq_view (bytes : Bytes) : layout bytes = view bytes (rows bytes) := by
  have hhead : ∀ run ∈ ((rows bytes).splitBy (· == ·)).head?, Squeezer.start.last ≠ run.head? := by
    intro run hrun
    obtain ⟨row, more, rfl⟩ := eq_replicate_of_mem_splitBy (List.mem_of_mem_head? hrun)
    exact (Option.some_ne_none row).symm
  have hshown := shown_foldl_push_runs (fun _ => eq_replicate_of_mem_splitBy)
    (isChain_splitBy (rows bytes)) hhead 0
  rw [List.flatten_splitBy] at hshown
  have htotal : (if bytes.isEmpty then [] else [Line.total bytes.length]) =
      if bytes = [] then [] else [.total bytes.length] := by
    rcases bytes with _ | ⟨byte, bytes⟩ <;> rfl
  rw [layout, hshown, htotal, view, List.reverse_append, List.reverse_reverse]
  rfl

-- a run at the start, a row alone, and a run at the end
example : viewFrom 0 ([[1], [1], [1], [2], [3], [3]].splitBy (· == ·)) =
    [.row 0 [1], .repeated, .row 48 [2], .row 64 [3], .repeated] := by
  decide

end RomCompiler.Hexdump
