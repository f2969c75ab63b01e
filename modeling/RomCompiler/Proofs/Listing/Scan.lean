import RomCompiler.Listing.Parse
import RomCompiler.Proofs.Listing.Line

/-! # Lines in one reading

The lines of a listing are found in one reading from left to right as well, which needs to look no
further than one character ahead. It tells which end each line has, and so which of the three ends
a listing is written with does not matter: the lines are the same, and with them what is decoded.
* **`scan`** — the lines of a text with their ends; **`flatMap_scan`** — together they are the text.
* **`rewriteEnds`** — a text with one end in place of all its ends.
* **`lines_eq_map_scan`** — the lines that two passes cut out are those of the one reading.
* **`lines_rewriteEnds`** — they stay the same when the ends are rewritten.
* **`lines_eq_scan`** — all of this about one text, with what it means for decoding it. -/

namespace RomCompiler.Listing

/-- **The lines of a text with their ends, in one reading from left to right.** What has been read
of the line so far is `current`. At the end of the text it is a line without an end, unless it is
empty. -/
def scanFrom (current : Text) : Text → List (Text × Text)
  | '\r' :: '\n' :: rest => (current, ['\r', '\n']) :: scanFrom [] rest
  | c :: rest =>
    if c = '\r' ∨ c = '\n' then (current, [c]) :: scanFrom [] rest
    else scanFrom (current ++ [c]) rest
  | [] => if current = [] then [] else [(current, [])]

/-- `scan text`: the lines of a text with their ends. -/
def scan (text : Text) : List (Text × Text) := scanFrom [] text

/-- `rewriteEnds terminator text`: a text with the given end in place of every end of a line. -/
def rewriteEnds (terminator text : Text) : Text :=
  (scan text).flatMap fun line => line.1 ++ if line.2 = [] then [] else terminator

variable {line terminator rest : Text}

/-! ## Reading one line -/

/-- `'\r' ∉ line ∧ '\n' ∉ line`: a text without ends has neither of the two characters that are in
them. -/
theorem NoEnds.notMem (h : NoEnds line) : '\r' ∉ line ∧ '\n' ∉ line := by
  constructor
  · intro hmem
    exact absurd (h _ hmem) (by decide)
  · intro hmem
    exact absurd (h _ hmem) (by decide)

/-- A text without ends is read into the current line. -/
theorem scanFrom_append_of_noEnds (h : NoEnds line) (current rest : Text) :
    scanFrom current (line ++ rest) = scanFrom (current ++ line) rest := by
  induction line generalizing current with
  | nil => rw [List.nil_append, List.append_nil]
  | cons c line ih =>
    obtain ⟨hreturn, hfeed⟩ := h.notMem
    have hreturn : c ≠ '\r' := (List.ne_of_not_mem_cons hreturn).symm
    have hfeed : c ≠ '\n' := (List.ne_of_not_mem_cons hfeed).symm
    rw [List.cons_append, scanFrom.eq_def]
    split
    · next heq => exact absurd (List.cons.inj heq).1 hreturn
    · next heq =>
      obtain ⟨rfl, rfl⟩ := List.cons.inj heq
      rw [if_neg (by simp [hreturn, hfeed]), ih (noEnds_cons.mp h).2, List.append_assoc,
        List.singleton_append]
    · next heq => exact absurd heq (by simp)

/-- An end completes the current line. -/
theorem scanFrom_terminator_append (hend : Terminator terminator) (h : Parted terminator rest)
    (current : Text) :
    scanFrom current (terminator ++ rest) = (current, terminator) :: scan rest := by
  cases hend with
  | lineFeed => rfl
  | pair => rfl
  | carriageReturn =>
    rw [List.singleton_append, scanFrom.eq_def]
    split
    · next heq =>
      rw [(List.cons.inj heq).2] at h
      exact absurd ⟨rfl, rfl⟩ h
    · next heq =>
      obtain ⟨rfl, rfl⟩ := List.cons.inj heq
      rfl
    · next heq => exact absurd heq (by simp)

/-- A line and its end are read before the rest. -/
theorem scan_append_terminator (hline : NoEnds line) (hend : Terminator terminator)
    (h : Parted terminator rest) :
    scan (line ++ terminator ++ rest) = (line, terminator) :: scan rest := by
  rw [scan, List.append_assoc, scanFrom_append_of_noEnds hline, List.nil_append,
    scanFrom_terminator_append hend h]

/-- `scan line = if line = [] then [] else [(line, [])]`: a text without ends is one line, if it is
anything. -/
theorem scan_of_noEnds (h : NoEnds line) : scan line = if line = [] then [] else [(line, [])] := by
  have hread := scanFrom_append_of_noEnds h [] []
  rwa [List.append_nil, List.nil_append] at hread

/-- `lines (line ++ terminator ++ rest) = line :: lines rest`: a line and its end come before the
lines of the rest. -/
theorem lines_append_terminator (hline : NoEnds line) (hend : Terminator terminator)
    (h : Parted terminator rest) : lines (line ++ terminator ++ rest) = line :: lines rest := by
  have hopen := openLines_append_terminator hline hend h
  obtain ⟨first, others, hrest⟩ := List.exists_cons_of_ne_nil (openLines_ne_nil rest)
  show dropFinalEmpty (openLines (line ++ terminator ++ rest)) =
    line :: dropFinalEmpty (openLines rest)
  -- the last line is one of the rest
  rw [hopen, hrest, dropFinalEmpty, dropFinalEmpty, List.getLast?_cons_cons]
  split <;> rfl

/-- `lines line = if line = [] then [] else [line]`: a text without ends is one line, if it is
anything. -/
theorem lines_of_noEnds (h : NoEnds line) : lines line = if line = [] then [] else [line] := by
  show dropFinalEmpty (openLines line) = _
  rw [openLines_of_noEnds h, dropFinalEmpty]
  split <;> simp_all

/-! ## Reading all lines -/

/-- **The lines that two passes cut out are those of the one reading**:
`lines source = (scan source).map Prod.fst`. -/
theorem lines_eq_map_scan (source : Text) : lines source = (scan source).map Prod.fst := by
  induction source using lineInduction with
  | last line hline =>
    rw [lines_of_noEnds hline, scan_of_noEnds hline]
    split <;> rfl
  | step line terminator rest hline hend hparted ih =>
    rw [lines_append_terminator hline hend hparted, scan_append_terminator hline hend hparted, ih]
    rfl

/-- **The lines with their ends are the text**:
`(scan source).flatMap (fun line => line.1 ++ line.2) = source`. -/
theorem flatMap_scan (source : Text) :
    (scan source).flatMap (fun line => line.1 ++ line.2) = source := by
  induction source using lineInduction with
  | last line hline =>
    rw [scan_of_noEnds hline]
    split
    · next h => rw [h, List.flatMap_nil]
    · rw [List.flatMap_singleton, List.append_nil]
  | step line terminator rest hline hend hparted ih =>
    rw [scan_append_terminator hline hend hparted, List.flatMap_cons, ih]

/-- Every line has an end, but for a last one that is not empty. -/
theorem terminator_of_mem_scan (source : Text) :
    (∀ line ∈ (scan source).dropLast, Terminator line.2) ∧
      ∀ line ∈ scan source, Terminator line.2 ∨ line.2 = [] ∧ line.1 ≠ [] := by
  induction source using lineInduction with
  | last line hline =>
    rw [scan_of_noEnds hline]
    split
    · simp
    · next hne => simp [hne]
  | step line terminator rest hline hend hparted ih =>
    rw [scan_append_terminator hline hend hparted]
    constructor
    · rcases hrest : scan rest with _ | ⟨next, others⟩
      · simp
      · rw [List.dropLast_cons_cons, List.forall_mem_cons, ← hrest]
        exact ⟨hend, ih.1⟩
    · rw [List.forall_mem_cons]
      exact ⟨.inl hend, ih.2⟩

/-- No line has a character that ends one. -/
theorem noEnds_of_mem_lines {source : Text} (h : line ∈ lines source) : NoEnds line := by
  induction source using lineInduction with
  | last whole hwhole =>
    rw [lines_of_noEnds hwhole] at h
    split at h
    · exact absurd h List.not_mem_nil
    · rw [List.mem_singleton.mp h]
      exact hwhole
  | step first terminator rest hfirst hend hparted ih =>
    rw [lines_append_terminator hfirst hend hparted, List.mem_cons] at h
    rcases h with rfl | h
    · exact hfirst
    · exact ih h

/-- There are as many lines as ends, and one more if something comes after the last end. -/
theorem length_lines (source : Text) :
    (lines source).length = endCount source + if source.getLast?.all isLineEnd then 0 else 1 := by
  induction source using lineInduction with
  | last line hline =>
    rw [lines_of_noEnds hline, endCount_of_noEnds hline]
    rcases hlast : line.getLast? with _ | c
    · simp [List.getLast?_eq_none_iff.mp hlast]
    · have hc : isLineEnd c = false := hline c (List.mem_of_getLast? hlast)
      have hne : line ≠ [] := by
        rintro rfl
        exact absurd hlast (by simp)
      simp [hne, hc]
  | step line terminator rest hline hend hparted ih =>
    have hlast : (line ++ terminator ++ rest).getLast?.all isLineEnd =
        rest.getLast?.all isLineEnd := by
      rw [List.getLast?_append]
      rcases rest.getLast? with _ | c
      · cases hend <;> simp [isLineEnd]
      · rfl
    rw [lines_append_terminator hline hend hparted, List.length_cons, ih,
      endCount_append_terminator hline hend hparted, hlast, Nat.add_right_comm]

/-! ## Rewriting the ends -/

variable {newEnd : Text}

/-- Only the end of a line is rewritten. -/
theorem rewriteEnds_append_terminator (hline : NoEnds line) (hend : Terminator terminator)
    (h : Parted terminator rest) (newEnd : Text) :
    rewriteEnds newEnd (line ++ terminator ++ rest) =
      line ++ newEnd ++ rewriteEnds newEnd rest := by
  have hne : terminator ≠ [] := by
    cases hend <;> exact List.cons_ne_nil _ _
  rw [rewriteEnds, scan_append_terminator hline hend h, List.flatMap_cons, if_neg hne]
  rfl

/-- `rewriteEnds newEnd line = line`: a text without ends stays as it is. -/
theorem rewriteEnds_of_noEnds (h : NoEnds line) (newEnd : Text) :
    rewriteEnds newEnd line = line := by
  rw [rewriteEnds, scan_of_noEnds h]
  split <;> simp_all

/-- `'\n' ∉ rewriteEnds ['\r'] text`: with carriage returns in place of all ends there are no line
feeds any more. -/
theorem lineFeed_notMem_rewriteEnds (text : Text) : '\n' ∉ rewriteEnds ['\r'] text := by
  induction text using lineInduction with
  | last line hline =>
    rw [rewriteEnds_of_noEnds hline]
    exact hline.notMem.2
  | step line terminator rest hline hend hparted ih =>
    rw [rewriteEnds_append_terminator hline hend hparted]
    simp [hline.notMem.2, ih]

/-- `Parted newEnd (rewriteEnds newEnd text)`: a new end does not become another one together with
what comes after it. -/
theorem parted_rewriteEnds (h : Terminator newEnd) (text : Text) :
    Parted newEnd (rewriteEnds newEnd text) := by
  rintro ⟨hlast, hhead⟩
  cases h with
  | lineFeed => exact absurd hlast (by decide)
  | pair => exact absurd hlast (by decide)
  | carriageReturn => exact lineFeed_notMem_rewriteEnds text (List.mem_of_mem_head? hhead)

/-- **The lines stay the same when the ends are rewritten**:
`lines (rewriteEnds newEnd source) = lines source`. -/
theorem lines_rewriteEnds (h : Terminator newEnd) (source : Text) :
    lines (rewriteEnds newEnd source) = lines source := by
  induction source using lineInduction with
  | last line hline => rw [rewriteEnds_of_noEnds hline]
  | step line terminator rest hline hend hparted ih =>
    rw [rewriteEnds_append_terminator hline hend hparted,
      lines_append_terminator hline h (parted_rewriteEnds h rest),
      lines_append_terminator hline hend hparted, ih]

/-- `parse markers source = parse markers other`: listings with the same lines are decoded alike. -/
theorem parse_eq_of_lines_eq (markers : Markers) {source other : Text}
    (h : lines source = lines other) : parse markers source = parse markers other := by
  rw [parse, parse, h]

/-- **The lines of a text are those of one reading**, `scan source`, in which a carriage return and
a line feed are one end and any other of the two characters is an end by itself. No line has one of
these characters, there are as many lines as ends and one more for anything after the last end, and
with their ends the lines are the text. Whichever `Terminator` is put in place of all ends by
`rewriteEnds`, the listing is decoded in the same way. -/
theorem lines_eq_scan (source : Text) :
    lines source = (scan source).map Prod.fst ∧
    (∀ line ∈ lines source, '\r' ∉ line ∧ '\n' ∉ line) ∧
    (lines source).length = (endCount source + if source.getLast?.all isLineEnd then 0 else 1) ∧
    (scan source).flatMap (fun line => line.1 ++ line.2) = source ∧
    (∀ line ∈ (scan source).dropLast, Terminator line.2) ∧
    (∀ line ∈ scan source, Terminator line.2 ∨ line.2 = [] ∧ line.1 ≠ []) ∧
    ∀ markers newEnd, Terminator newEnd →
      parse markers (rewriteEnds newEnd source) = parse markers source := by
  obtain ⟨hfront, hall⟩ := terminator_of_mem_scan source
  refine ⟨lines_eq_map_scan source, ?_, length_lines source, flatMap_scan source, hfront, hall, ?_⟩
  · intro line hline
    exact (noEnds_of_mem_lines hline).notMem
  · intro markers newEnd hend
    exact parse_eq_of_lines_eq markers (lines_rewriteEnds hend source)

-- two returns of which only the second has a line feed, and nothing after the last end
example : scan ['a', '\r', '\r', '\n', '\n', 'b', '\r'] =
    [(['a'], ['\r']), ([], ['\r', '\n']), ([], ['\n']), (['b'], ['\r'])] := by
  decide

end RomCompiler.Listing
