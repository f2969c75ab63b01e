import Mathlib.Data.List.Forall2
import RomCompiler.Proofs.Listing.Field

/-! # The tokens of a listing

Decoding a listing is decoding its tokens one after the other, each with the number of its line, up
to the first that is not a byte. All else that lines and fields do is to place the tokens.
* **`placedTokens`**, **`listingTokens`** — the tokens of a listing with the numbers of their lines,
  and without them.
* **`decodePlaced`** — the bytes of such tokens, up to the first fault.
* **`outcome_parse`** — a listing is decoded by decoding its placed tokens.
* **`decodePlaced_eq_ok_iff`**, **`decodePlaced_eq_error_iff`** — when all of them are bytes, and
  which of them the fault is about. -/

namespace RomCompiler.Listing

variable {markers : Markers}

/-- `placedFrom markers number lines`: the tokens of some lines, of which the first one has the
given number. -/
def placedFrom (markers : Markers) (number : Nat) (lines : List Text) : List (Nat × Text) :=
  (lines.zipIdx number).flatMap fun line => (tokens markers line.1).map (line.2, ·)

/-- `placedTokens markers source`: the tokens of a listing with the numbers of their lines, in the
order of the listing. -/
def placedTokens (markers : Markers) (source : Text) : List (Nat × Text) :=
  placedFrom markers 1 (openLines source)

/-- `listingTokens markers source`: the tokens of a listing without the numbers of their lines. -/
def listingTokens (markers : Markers) (source : Text) : List Text :=
  (openLines source).flatMap (tokens markers)

/-- `decodePlaced tokens`: the bytes of tokens with their line numbers, up to the first fault. -/
def decodePlaced : List (Nat × Text) → Except Fault Bytes
  | [] => .ok []
  | (number, token) :: rest => do
    let byte ← decodeToken number token
    (byte :: ·) <$> decodePlaced rest

/-- `fault.relocate f`: the fault about a token that is moved and rewritten with its line number, as
`f` says. -/
def Fault.relocate (f : Nat × Text → Nat × Text) (fault : Fault) : Fault where
  line := (f (fault.line, fault.token)).1
  token := (f (fault.line, fault.token)).2
  kind := fault.kind

/-- `Decodes tokens bytes`: all tokens are bytes, and these are they. -/
def Decodes (tokens : List Text) (bytes : Bytes) : Prop :=
  List.Forall₂ (fun token byte => Token.decode token = .ok byte) tokens bytes

/-! ## Placing tokens -/

/-- `placedFrom markers number [] = []`: there are no tokens in no lines. -/
@[simp] theorem placedFrom_nil (number : Nat) : placedFrom markers number [] = [] := rfl

/-- The tokens of the first line come before those of the others. -/
theorem placedFrom_cons (number : Nat) (line : Text) (lines : List Text) :
    placedFrom markers number (line :: lines) =
      (tokens markers line).map (number, ·) ++ placedFrom markers (number + 1) lines := rfl

/-- The tokens of more lines come after those of the first, with higher numbers. -/
theorem placedFrom_append (number : Nat) (front back : List Text) :
    placedFrom markers number (front ++ back) =
      placedFrom markers number front ++ placedFrom markers (number + front.length) back := by
  rw [placedFrom, List.zipIdx_append, List.flatMap_append]
  rfl

/-- Lines that are counted from a higher number have the same tokens as much further on. -/
theorem placedFrom_add (number count : Nat) (lines : List Text) :
    placedFrom markers (number + count) lines =
      (placedFrom markers number lines).map fun item => (item.1 + count, item.2) := by
  induction lines generalizing number with
  | nil => rfl
  | cons line lines ih =>
    rw [placedFrom_cons, placedFrom_cons, List.map_append, ← ih, List.map_map,
      Nat.add_right_comm]
    rfl

/-- Without the numbers of their lines, the tokens of a listing are those of its lines. -/
theorem map_snd_placedFrom (number : Nat) (lines : List Text) :
    (placedFrom markers number lines).map Prod.snd = lines.flatMap (tokens markers) := by
  induction lines generalizing number with
  | nil => rfl
  | cons line lines ih =>
    rw [placedFrom_cons, List.map_append, ih, List.flatMap_cons, List.map_map]
    simp [Function.comp_def]

/-- `tokens markers [] = []`: there are no tokens in an empty line. -/
@[simp] theorem tokens_nil : tokens markers [] = [] := rfl

/-- A last line that is empty has no tokens, so it makes no difference that it is dropped. -/
theorem placedFrom_dropFinalEmpty (number : Nat) (lines : List Text) :
    placedFrom markers number (dropFinalEmpty lines) = placedFrom markers number lines := by
  unfold dropFinalEmpty
  split
  · next h =>
    obtain ⟨front, rfl⟩ := List.getLast?_eq_some_iff.mp h
    rw [List.dropLast_concat, placedFrom_append, placedFrom_cons, tokens_nil]
    simp
  · rfl

/-- Without the numbers of their lines, placed tokens are the tokens of the listing. -/
theorem map_snd_placedTokens (source : Text) :
    (placedTokens markers source).map Prod.snd = listingTokens markers source :=
  map_snd_placedFrom 1 _

/-- `listingTokens markers line = tokens markers line`: a text without ends has the tokens of one
line. -/
theorem listingTokens_of_noEnds {line : Text} (h : NoEnds line) :
    listingTokens markers line = tokens markers line := by
  rw [listingTokens, openLines_of_noEnds h, List.flatMap_singleton]

/-- A line and an end have the tokens of the line before those of the rest. Where the end is cut
in two by the rest, this is as good, because the line between its halves is empty. -/
theorem listingTokens_append_terminator {line terminator : Text} (hline : NoEnds line)
    (hend : Terminator terminator) (rest : Text) :
    listingTokens markers (line ++ terminator ++ rest) =
      tokens markers line ++ listingTokens markers rest := by
  by_cases h : Parted terminator rest
  · rw [listingTokens, openLines_append_terminator hline hend h, List.flatMap_cons]
    rfl
  · -- a carriage return in front of a line feed: the two are one end of the whole text
    obtain ⟨hlast, rest, rfl⟩ := eq_cons_of_not_parted h
    obtain rfl : terminator = ['\r'] := by
      cases hend with
      | lineFeed => exact absurd hlast (by decide)
      | pair => exact absurd hlast (by decide)
      | carriageReturn => rfl
    have hfeed : openLines ('\n' :: rest) = [] :: openLines rest :=
      openLines_end (by decide) (by simp [Parted])
    have hpair : line ++ ['\r'] ++ '\n' :: rest = line ++ ['\r', '\n'] ++ rest := by
      simp
    rw [hpair, listingTokens, openLines_append_terminator hline .pair (by simp [Parted]),
      List.flatMap_cons, listingTokens, hfeed, List.flatMap_cons, tokens_nil, List.nil_append]

/-! ## Decoding placed tokens -/

/-- A byte comes before the bytes of the other tokens. -/
theorem decodePlaced_cons_of_ok {token : Text} {byte : UInt8} (h : Token.decode token = .ok byte)
    (number : Nat) (rest : List (Nat × Text)) :
    decodePlaced ((number, token) :: rest) = (byte :: ·) <$> decodePlaced rest := by
  rw [decodePlaced, decodeToken, h]
  rfl

/-- A token that is not a byte is the fault, whatever comes after it. -/
theorem decodePlaced_cons_of_error {token : Text} {kind : Token.Fault}
    (h : Token.decode token = .error kind) (number : Nat) (rest : List (Nat × Text)) :
    decodePlaced ((number, token) :: rest) = .error ⟨number, token, kind⟩ := by
  rw [decodePlaced, decodeToken, h]
  rfl

/-- Tokens after others are decoded if those are bytes. -/
theorem decodePlaced_append (front back : List (Nat × Text)) :
    decodePlaced (front ++ back) = (do
      let first ← decodePlaced front
      (first ++ ·) <$> decodePlaced back) := by
  induction front with
  | nil =>
    change decodePlaced back = (([] : Bytes) ++ ·) <$> decodePlaced back
    rcases decodePlaced back with fault | bytes <;> rfl
  | cons head front ih =>
    obtain ⟨number, token⟩ := head
    rw [List.cons_append]
    rcases h : Token.decode token with kind | byte
    · rw [decodePlaced_cons_of_error h, decodePlaced_cons_of_error h]
      rfl
    · rw [decodePlaced_cons_of_ok h, decodePlaced_cons_of_ok h, ih]
      rcases decodePlaced front with fault | first
      · rfl
      · rcases decodePlaced back with fault | second <;> rfl

/-- The tokens of one line are decoded as tokens with the number of this line. -/
theorem decodePlaced_map (number : Nat) (tokens : List Text) :
    decodePlaced (tokens.map (number, ·)) = decodeTokens number tokens := by
  induction tokens with
  | nil => rfl
  | cons token tokens ih =>
    rw [List.map_cons, decodePlaced, ih]
    rfl

/-- Tokens that are moved and rewritten decode to the same bytes, or to the fault moved and
rewritten in the same way, as long as each of them decodes as before. -/
theorem decodePlaced_map_of_decode_eq {f : Nat × Text → Nat × Text}
    (h : ∀ item, Token.decode (f item).2 = Token.decode item.2) (placed : List (Nat × Text)) :
    decodePlaced (placed.map f) = (decodePlaced placed).mapError (Fault.relocate f) := by
  induction placed with
  | nil => rfl
  | cons item placed ih =>
    obtain ⟨number, token⟩ := item
    have hitem := h (number, token)
    rw [List.map_cons]
    rcases htoken : Token.decode token with kind | byte
    · rw [htoken] at hitem
      rw [decodePlaced_cons_of_error htoken, decodePlaced_cons_of_error hitem]
      rfl
    · rw [htoken] at hitem
      rw [decodePlaced_cons_of_ok htoken, decodePlaced_cons_of_ok hitem, ih]
      rcases decodePlaced placed with fault | rest <;> rfl

/-- Lines are decoded by decoding their tokens. -/
theorem outcome_decodeLines (total number : Nat) (lines : List Text) :
    (decodeLines markers total (lines.zipIdx number)).outcome =
      decodePlaced (placedFrom markers number lines) := by
  induction lines generalizing number with
  | nil => rfl
  | cons line lines ih =>
    rw [List.zipIdx_cons, decodeLines_cons, placedFrom_cons, decodePlaced_append, decodePlaced_map,
      ← ih, decodeLine, tokens_trim]
    rcases decodeTokens number (tokens markers line) with fault | bytes <;> rfl

/-- **A listing is decoded by decoding its tokens.** -/
theorem outcome_parse (markers : Markers) (source : Text) :
    (parse markers source).outcome = decodePlaced (placedTokens markers source) := by
  have hlines : decodePlaced (placedFrom markers 1 (lines source)) =
      decodePlaced (placedTokens markers source) := by
    rw [lines, placedFrom_dropFinalEmpty]
    rfl
  rw [← hlines, ← outcome_decodeLines (lines source).length]
  unfold parse
  rcases decodeLines markers (lines source).length ((lines source).zipIdx 1) with
    ⟨log, fault | bytes⟩ <;> rfl

/-! ## When all tokens are bytes -/

/-- `Decodes [] bytes ↔ bytes = []`: no tokens are no bytes. -/
@[simp] theorem decodes_nil {bytes : Bytes} : Decodes [] bytes ↔ bytes = [] :=
  List.forall₂_nil_left_iff

/-- One token is one byte. -/
theorem decodes_singleton {token : Text} {bytes : Bytes} :
    Decodes [token] bytes ↔ ∃ byte, Token.decode token = .ok byte ∧ bytes = [byte] := by
  rw [Decodes, List.forall₂_cons_left_iff]
  constructor
  · rintro ⟨byte, rest, hbyte, hrest, rfl⟩
    exact ⟨byte, hbyte, by rw [List.forall₂_nil_left_iff.mp hrest]⟩
  · rintro ⟨byte, hbyte, rfl⟩
    exact ⟨byte, [], hbyte, .nil, rfl⟩

/-- The bytes of tokens put together are put together of the bytes of the parts. -/
theorem decodes_append_iff {front back : List Text} {bytes : Bytes} :
    Decodes (front ++ back) bytes ↔
      ∃ first second, bytes = first ++ second ∧ Decodes front first ∧ Decodes back second := by
  constructor
  · intro h
    refine ⟨bytes.take front.length, bytes.drop front.length,
      (List.take_append_drop _ _).symm, ?_, ?_⟩
    · exact (List.forall₂_take_append bytes front back h.flip).flip
    · exact (List.forall₂_drop_append bytes front back h.flip).flip
  · rintro ⟨first, second, rfl, hfront, hback⟩
    exact List.rel_append hfront hback

/-- **Placed tokens are decoded to bytes if all of them are these bytes, in whatever lines.** -/
theorem decodePlaced_eq_ok_iff {placed : List (Nat × Text)} {bytes : Bytes} :
    decodePlaced placed = .ok bytes ↔ Decodes (placed.map Prod.snd) bytes := by
  induction placed generalizing bytes with
  | nil =>
    rw [List.map_nil, decodes_nil, decodePlaced, Except.ok.injEq, eq_comm]
  | cons head placed ih =>
    obtain ⟨number, token⟩ := head
    rw [List.map_cons, Decodes, List.forall₂_cons_left_iff]
    rcases h : Token.decode token with kind | byte
    · rw [decodePlaced_cons_of_error h]
      simp
    · rw [decodePlaced_cons_of_ok h]
      rcases hrest : decodePlaced placed with fault | rest
      · -- the fault of a later token leaves no bytes for the rest
        have hnone : ∀ others, ¬ Decodes (placed.map Prod.snd) others := by
          intro others hothers
          rw [ih.mpr hothers] at hrest
          exact absurd hrest (by simp)
        constructor
        · intro hmap
          exact absurd hmap (by simp [Functor.map, Except.map])
        · rintro ⟨_, others, _, hothers, _⟩
          exact absurd hothers (hnone others)
      · constructor
        · intro hmap
          obtain rfl := Except.ok.inj hmap
          exact ⟨byte, rest, rfl, ih.mp hrest, rfl⟩
        · rintro ⟨first, others, hfirst, hothers, rfl⟩
          rw [← Except.ok.inj hfirst, Except.ok.inj (hrest.symm.trans (ih.mpr hothers))]
          rfl

/-- A listing is accepted if its tokens are bytes. -/
theorem outcome_parse_eq_ok_iff {source : Text} {bytes : Bytes} :
    (parse markers source).outcome = .ok bytes ↔ Decodes (listingTokens markers source) bytes := by
  rw [outcome_parse, decodePlaced_eq_ok_iff, map_snd_placedTokens]

/-! ## The first token that is not a byte -/

/-- **Placed tokens have a fault if one of them is not a byte and all before it are: the fault is
about this one, in its line.** -/
theorem decodePlaced_eq_error_iff {placed : List (Nat × Text)} {fault : Fault} :
    decodePlaced placed = .error fault ↔
      ∃ front back bytes, placed = front ++ (fault.line, fault.token) :: back ∧
        decodePlaced front = .ok bytes ∧ Token.decode fault.token = .error fault.kind := by
  constructor
  · intro h
    -- the first token is the fault, or it is a byte and the fault is one of the others
    induction placed with
    | nil => exact absurd h (by simp [decodePlaced])
    | cons head placed ih =>
      obtain ⟨number, token⟩ := head
      rcases htoken : Token.decode token with kind | byte
      · rw [decodePlaced_cons_of_error htoken] at h
        obtain rfl := Except.error.inj h
        exact ⟨[], placed, [], rfl, rfl, htoken⟩
      · rw [decodePlaced_cons_of_ok htoken] at h
        rcases hrest : decodePlaced placed with other | rest
        · rw [hrest] at h
          obtain rfl := Except.error.inj h
          obtain ⟨front, back, bytes, rfl, hfront, hkind⟩ := ih hrest
          refine ⟨(number, token) :: front, back, byte :: bytes, rfl, ?_, hkind⟩
          rw [decodePlaced_cons_of_ok htoken, hfront]
          rfl
        · rw [hrest] at h
          exact absurd h (by simp [Functor.map, Except.map])
  · rintro ⟨front, back, bytes, rfl, hfront, hkind⟩
    rw [decodePlaced_append, hfront, decodePlaced_cons_of_error hkind]
    rfl

end RomCompiler.Listing
