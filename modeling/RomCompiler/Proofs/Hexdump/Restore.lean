import Mathlib.Data.List.Induction
import RomCompiler.Proofs.Hexdump.Rows

/-! # Bytes from the lines of a hexdump

How many rows a star stands for is not written, but the next offset tells it, or else the length at
the end: it is as often as the last row fits in between.
* **`Restorer`**, **`restore`** — what is known of the bytes after some lines, and the bytes that
  all lines give.
* **`Restorer.upTo_of_count`** — the last row is repeated as often as it was left out.
* **`Tracks`** — what the lines so far have to do with the rows so far; **`Tracks.push`** and
  **`tracks_foldl`** say that one more row and all rows keep it.
* **`restore_layout`** — the lines of a hexdump give its bytes. -/

namespace RomCompiler.Hexdump

/-- **What is known after some of the lines.** -/
structure Restorer where
  /-- The bytes so far, without those that a star has left out after them. -/
  bytes : Bytes
  /-- The last row. -/
  last : Bytes
  deriving DecidableEq, Repr

namespace Restorer

/-- Before the first line. -/
def start : Restorer := ⟨[], []⟩

/-- `state.upTo length`: the bytes so far with the last row again, as often as it fits below
`length`. -/
def upTo (state : Restorer) (length : Nat) : Bytes :=
  state.bytes ++ (List.replicate ((length - state.bytes.length) / rowLength) state.last).flatten

/-- **One more line.** A star by itself says nothing yet: the next line has an offset or a length,
and the bytes are restored `upTo` there. -/
def next (state : Restorer) : Line → Restorer
  | .row offset bytes => ⟨state.upTo offset ++ bytes, bytes⟩
  | .repeated => state
  | .total length => ⟨state.upTo length, state.last⟩

/-- **Up to where a full row was left out some number of times, it is repeated as many times**:
`state.upTo all.length = all`. -/
theorem upTo_of_count {state : Restorer} {all : Bytes} {count : Nat}
    (hall : all = state.bytes ++ (List.replicate count state.last).flatten)
    (hfull : count ≠ 0 → state.last.length = rowLength) : state.upTo all.length = all := by
  have hlength : all.length - state.bytes.length = count * state.last.length := by
    rw [hall]
    simp
  have hcount : (all.length - state.bytes.length) / rowLength = count := by
    by_cases hzero : count = 0
    · rw [hlength, hzero, Nat.zero_mul, Nat.zero_div]
    · have hpos : 0 < rowLength := by decide
      rw [hlength, hfull hzero, Nat.mul_div_cancel _ hpos]
  rw [upTo, hcount, ← hall]

end Restorer

/-- `restore lines`: the bytes that some lines give. -/
def restore (lines : List Line) : Bytes := (lines.foldl Restorer.next .start).bytes

/-- What is known after lines that are given with the last one first, by one `next` for each of
them. -/
def restored (shown : List Line) : Restorer :=
  shown.foldr (fun line state => state.next line) .start

/-- **The lines shown after some rows are enough to know them.** With `Tracks seen state`, all that
is missing of `seen` is the last row, some number of times, and it is missing only if it is full. -/
structure Tracks (seen : List Bytes) (state : Squeezer) : Prop where
  /-- The last row is remembered. -/
  last_eq : state.last = seen.getLast?
  /-- The last row is the last one that is shown. -/
  restored_last : ∀ row ∈ seen.getLast?, (restored state.shown).last = row
  /-- The rows are those that are shown, and then the last one again. -/
  exists_count : ∃ count,
    seen.flatten = (restored state.shown).bytes ++
      (List.replicate count (restored state.shown).last).flatten ∧
    (count ≠ 0 → (restored state.shown).last.length = rowLength)

variable {seen : List Bytes} {state : Squeezer} {row : Bytes}

/-- `Tracks [] .start`: before the first row nothing is missing. -/
theorem tracks_start : Tracks [] .start where
  last_eq := rfl
  restored_last := by simp
  exists_count := ⟨0, rfl, by simp⟩

/-- `seen.flatten.length = seen.length * rowLength`: rows that are all full take their number times
the length of one. -/
theorem length_flatten_of_full (h : ∀ row ∈ seen, row.length = rowLength) :
    seen.flatten.length = seen.length * rowLength := by
  have hmap : seen.map List.length = List.replicate seen.length rowLength :=
    List.map_eq_replicate_iff.mpr h
  rw [List.length_flatten, hmap, List.sum_replicate_nat]

/-- A row like the one before it is missing once more. -/
theorem Tracks.push_of_eq (h : Tracks seen state) (hfull : ∀ row ∈ seen, row.length = rowLength)
    (hlast : state.last = some row) : Tracks (seen ++ [row]) (state.push (row, seen.length)) := by
  have hmem : row ∈ seen.getLast? := by
    rw [← h.last_eq, hlast]
    rfl
  have hrow : (restored state.shown).last = row := h.restored_last row hmem
  have hlength : row.length = rowLength := hfull row (List.mem_of_getLast? hmem)
  -- a first star adds no bytes, and later rows do not even add a star
  have hshown : restored (state.push (row, seen.length)).shown = restored state.shown := by
    rw [Squeezer.push, if_pos hlast]
    split <;> rfl
  have hremembered : (state.push (row, seen.length)).last = some row := by
    rw [Squeezer.push, if_pos hlast]
    split <;> exact hlast
  obtain ⟨count, hflatten, -⟩ := h.exists_count
  refine ⟨?_, ?_, count + 1, ?_, ?_⟩
  · rw [hremembered, List.getLast?_concat]
  · intro other hother
    rw [List.getLast?_concat] at hother
    rw [hshown, hrow]
    exact Option.some.inj hother
  · rw [hshown, List.flatten_append, hflatten, hrow, List.replicate_succ', List.flatten_append,
      List.append_assoc]
  · intro _
    rw [hshown, hrow, hlength]

/-- A row that differs from the one before it is shown, and its offset tells what was missing. -/
theorem Tracks.push_of_ne (h : Tracks seen state) (hfull : ∀ row ∈ seen, row.length = rowLength)
    (hlast : state.last ≠ some row) : Tracks (seen ++ [row]) (state.push (row, seen.length)) := by
  obtain ⟨count, hflatten, hcount⟩ := h.exists_count
  have hupTo : (restored state.shown).upTo (seen.length * rowLength) = seen.flatten := by
    rw [← length_flatten_of_full hfull]
    exact Restorer.upTo_of_count hflatten hcount
  have hshown : restored (state.push (row, seen.length)).shown = ⟨seen.flatten ++ row, row⟩ := by
    rw [Squeezer.push, if_neg hlast, ← hupTo]
    rfl
  have hremembered : (state.push (row, seen.length)).last = some row := by
    rw [Squeezer.push, if_neg hlast]
  refine ⟨?_, ?_, 0, ?_, ?_⟩
  · rw [hremembered, List.getLast?_concat]
  · intro other hother
    rw [List.getLast?_concat] at hother
    rw [hshown]
    exact Option.some.inj hother
  · rw [hshown, List.flatten_append]
    simp
  · intro hzero
    exact absurd rfl hzero

/-- **One more row after full ones is not lost**:
`Tracks (seen ++ [row]) (state.push (row, seen.length))`. -/
theorem Tracks.push (h : Tracks seen state) (hfull : ∀ row ∈ seen, row.length = rowLength)
    (row : Bytes) : Tracks (seen ++ [row]) (state.push (row, seen.length)) := by
  by_cases hlast : state.last = some row
  · exact h.push_of_eq hfull hlast
  · exact h.push_of_ne hfull hlast

/-- **No row is lost if all but the last are full**:
`Tracks seen (seen.zipIdx.foldl Squeezer.push .start)`. -/
theorem tracks_foldl (seen : List Bytes) (hfull : ∀ row ∈ seen.dropLast, row.length = rowLength) :
    Tracks seen (seen.zipIdx.foldl Squeezer.push .start) := by
  induction seen using List.reverseRecOn with
  | nil => exact tracks_start
  | append_singleton seen row ih =>
    rw [List.dropLast_concat] at hfull
    have hfront : ∀ row ∈ seen.dropLast, row.length = rowLength :=
      fun row hrow => hfull row (List.dropLast_subset seen hrow)
    have hindex : (seen ++ [row]).zipIdx = seen.zipIdx ++ [(row, seen.length)] := by
      rw [List.zipIdx_append]
      simp
    rw [hindex, List.foldl_append]
    exact (ih hfront).push hfull row

/-- **The lines of a hexdump give its bytes**: `restore (layout bytes) = bytes`. -/
theorem restore_layout (bytes : Bytes) : restore (layout bytes) = bytes := by
  by_cases hempty : bytes = []
  · rw [hempty]
    rfl
  · have htracks := tracks_foldl (rows bytes) fun _ => length_eq_of_mem_dropLast_rows
    obtain ⟨count, hflatten, hcount⟩ := htracks.exists_count
    rw [flatten_rows] at hflatten
    -- rows that are missing at the end are told by the length of the whole
    have htotal := Restorer.upTo_of_count hflatten hcount
    rw [layout, if_neg (by simpa using hempty), restore, List.foldl_append, List.foldl_reverse]
    exact htotal

-- a star for two rows that are like the first, and a last row that is only its beginning
example : layout (List.replicate 52 0xea) =
    [.row 0 (List.replicate 16 0xea), .repeated, .row 48 (List.replicate 4 0xea), .total 52] := by
  decide

end RomCompiler.Hexdump
