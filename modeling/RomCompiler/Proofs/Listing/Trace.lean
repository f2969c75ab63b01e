import RomCompiler.Proofs.Listing.Place

/-! # The records of a listing

Decoding a listing writes a record for each line before the line is looked at, so the records end
with the line of a fault, and all lines are there if none of them has one.
* **`lineRecord`**, **`lineRecords`** — the records of one line and of the first lines.
* **`decodeLines_cases`** — the records of numbered lines, and the end they have come to.
* **`log_parse_of_ok`** — a listing without faults has the records of its lines and that of its
  bytes.
* **`log_parse_of_error`** — a listing with a fault has the records up to its line, and the token
  stands in front of the comment there. -/

namespace RomCompiler.Listing

open Text

variable {markers : Markers} {total : Nat} {line : Text × Nat} {rest : List (Text × Nat)}
  {source : Text}

/-- The record of a numbered line, out of `total` lines: the line is told as it is trimmed. -/
def lineRecord (total : Nat) (line : Text × Nat) : Record :=
  .compilingLine line.2 total (trim line.1)

/-- `lineRecords source count`: the records of the first `count` lines of a listing, numbered from
one. -/
def lineRecords (source : Text) (count : Nat) : List Record :=
  (((lines source).take count).zipIdx 1).map (lineRecord (lines source).length)

/-! ## Tokens and their lines -/

/-- `token <:+: uncommented markers text`: a token of a line stands in the line, in front of its
comment. -/
theorem isInfix_of_mem_tokens {token text : Text} (h : token ∈ tokens markers text) :
    token <:+: uncommented markers text := by
  rw [tokens_eq_fieldTokens] at h
  obtain ⟨front, back, hsplit⟩ := List.append_of_mem h
  obtain ⟨before, space, rest, htext, -⟩ := exists_eq_append_token markers.isBlank_separator hsplit
  exact ⟨before, space ++ rest, htext.symm⟩

/-- `fault.line = number ∧ fault.token ∈ tokens`: a fault of some tokens of a line is about one of
them, and has the number of the line. -/
theorem line_eq_of_decodeTokens {number : Nat} {tokens : List Text} {fault : Fault}
    (h : decodeTokens number tokens = .error fault) :
    fault.line = number ∧ fault.token ∈ tokens := by
  rw [← decodePlaced_map] at h
  obtain ⟨front, back, -, hplaced, -, -⟩ := decodePlaced_eq_error_iff.mp h
  have hmem : (fault.line, fault.token) ∈ tokens.map (number, ·) := by
    rw [hplaced]
    simp
  obtain ⟨token, htoken, heq⟩ := List.mem_map.mp hmem
  obtain ⟨rfl, rfl⟩ := Prod.mk.inj heq
  exact ⟨rfl, htoken⟩

/-! ## Lines and their records -/

/-- After a line with a fault nothing is decoded any more. -/
theorem decodeLines_cons_of_error {fault : Fault}
    (h : decodeTokens line.2 (tokens markers line.1) = .error fault) (total : Nat)
    (rest : List (Text × Nat)) :
    decodeLines markers total (line :: rest) = ⟨[lineRecord total line], .error fault⟩ := by
  rw [decodeLines_cons, decodeLine, tokens_trim, h]
  rfl

/-- After a line without faults the others are decoded, and their records come after that of the
line. -/
theorem decodeLines_cons_of_ok {first : Bytes}
    (h : decodeTokens line.2 (tokens markers line.1) = .ok first) (total : Nat)
    (rest : List (Text × Nat)) :
    decodeLines markers total (line :: rest) =
      ⟨lineRecord total line :: (decodeLines markers total rest).log,
        (first ++ ·) <$> (decodeLines markers total rest).outcome⟩ := by
  rw [decodeLines_cons, decodeLine, tokens_trim, h]
  rfl

/-- **Numbered lines without faults all have their records.** With a fault, the records end with
that of the line in which its token stands. -/
theorem decodeLines_cases (markers : Markers) (total : Nat) (numbered : List (Text × Nat)) :
    (∃ bytes, decodeLines markers total numbered = ⟨numbered.map (lineRecord total), .ok bytes⟩) ∨
    ∃ front line back fault, numbered = front ++ line :: back ∧ fault.line = line.2 ∧
      fault.token ∈ tokens markers line.1 ∧
      decodeLines markers total numbered =
        ⟨(front ++ [line]).map (lineRecord total), .error fault⟩ := by
  induction numbered with
  | nil => exact Or.inl ⟨[], rfl⟩
  | cons line rest ih =>
    -- a fault of the first line ends the records with it, whatever the other lines are
    rcases hline : decodeTokens line.2 (tokens markers line.1) with fault | first
    · obtain ⟨hnumber, htoken⟩ := line_eq_of_decodeTokens hline
      exact Or.inr ⟨[], line, rest, fault, rfl, hnumber, htoken,
        decodeLines_cons_of_error hline total rest⟩
    · rw [decodeLines_cons_of_ok hline]
      rcases ih with ⟨bytes, hrest⟩ | ⟨front, last, back, fault, rfl, hnumber, htoken, hrest⟩
      · rw [hrest]
        exact Or.inl ⟨first ++ bytes, rfl⟩
      · rw [hrest]
        exact Or.inr ⟨line :: front, last, back, fault, rfl, hnumber, htoken, rfl⟩

/-! ## The records of a listing -/

/-- The records of all the lines. -/
theorem lineRecords_length (source : Text) :
    lineRecords source (lines source).length =
      ((lines source).zipIdx 1).map (lineRecord (lines source).length) := by
  rw [lineRecords, List.take_length]

/-- `total = (lines source).length ∧ number ≤ total`: a record about lines of a listing tells how
many these are and has the number of one of them. -/
theorem of_compilingLine_mem_lineRecords {number total count : Nat} {text : Text}
    (h : .compilingLine number total text ∈ lineRecords source count) :
    total = (lines source).length ∧ number ≤ total := by
  obtain ⟨⟨line, place⟩, hline, hrecord⟩ := List.mem_map.mp h
  obtain ⟨rfl, rfl, -⟩ := Record.compilingLine.inj hrecord
  have hplace := List.snd_lt_of_mem_zipIdx hline
  rw [List.length_take] at hplace
  exact ⟨rfl, by omega⟩

/-- **A listing without faults has the records of all its lines, and then that of its bytes.** -/
theorem log_parse_of_ok {bytes : Bytes} (h : (parse markers source).outcome = .ok bytes) :
    (parse markers source).log =
      lineRecords source (lines source).length ++ [.parsed bytes.length] := by
  rcases decodeLines_cases markers (lines source).length ((lines source).zipIdx 1) with
    ⟨decoded, hlines⟩ | ⟨front, line, back, fault, -, -, -, hlines⟩
  · have hparse : parse markers source =
        ⟨((lines source).zipIdx 1).map (lineRecord (lines source).length) ++
          [.parsed decoded.length], .ok decoded⟩ := by
      rw [parse, hlines]
      rfl
    rw [hparse] at h ⊢
    rw [lineRecords_length, ← Except.ok.inj h]
  · rw [parse, hlines] at h
    exact absurd h (by simp)

/-- **A listing with a fault has the records of its lines up to that of the fault, in which the
token stands in front of the comment.** -/
theorem log_parse_of_error {fault : Fault} (h : (parse markers source).outcome = .error fault) :
    (parse markers source).log = lineRecords source fault.line ∧
    ∃ line, (parse markers source).log.getLast? =
        some (.compilingLine fault.line (lines source).length line) ∧
      fault.token <:+: uncommented markers line := by
  rcases decodeLines_cases markers (lines source).length ((lines source).zipIdx 1) with
    ⟨bytes, hlines⟩ | ⟨front, line, back, other, hsplit, hnumber, htoken, hlines⟩
  · rw [parse, hlines] at h
    exact absurd h (by simp [Logged.note, bind, Logged.andThen])
  · have hparse : parse markers source =
        ⟨(front ++ [line]).map (lineRecord (lines source).length), .error other⟩ := by
      rw [parse, hlines]
      rfl
    rw [hparse] at h
    obtain rfl : other = fault := Except.error.inj h
    -- the numbered lines up to that of the fault are the first lines with their numbers
    obtain ⟨before, others, hsource, rfl, hothers⟩ := List.zipIdx_eq_append_iff.mp hsplit
    obtain ⟨text, after, rfl, rfl, -⟩ := List.zipIdx_eq_cons_iff.mp hothers.symm
    have hlength : other.line = (before ++ [text]).length := by
      rw [hnumber, List.length_append, List.length_singleton, Nat.add_comm]
    have htake : (lines source).take other.line = before ++ [text] := by
      rw [hsource, List.append_cons, hlength, List.take_left]
    refine ⟨?_, trim text, ?_, ?_⟩
    · rw [hparse, lineRecords, htake, List.zipIdx_append]
      rfl
    · rw [hparse, List.map_append, List.map_singleton, List.getLast?_concat, lineRecord, hnumber]
    · rw [← tokens_trim] at htoken
      exact isInfix_of_mem_tokens htoken

end RomCompiler.Listing
