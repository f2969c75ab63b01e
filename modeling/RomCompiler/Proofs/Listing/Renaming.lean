import Mathlib.Logic.Equiv.Basic
import RomCompiler.Compilation
import RomCompiler.Proofs.Job
import RomCompiler.Proofs.Listing.Placed

/-! # Renaming characters

A listing can be written with other markers. Nothing but the characters with a meaning of their own
is known to the compiler, so all others can trade places, in the listing and among the markers: the
bytes stay the same, and a fault has the same place and its token is renamed like the listing.
* **`Renaming`** — a permutation of characters that keeps those with a meaning of their own.
* **`Renaming.openLines_onText`**, **`Renaming.tokens_onText`** — the lines and the tokens of a
  renamed text are the renamed ones.
* **`Renaming.decode_onText`** — a renamed token is the same byte, or as wrong as before.
* **`Renaming.outcome_parse_onText`** — decoding commutes with renaming, and with it
  **`compile_renamed`** — the whole of a compilation. -/

namespace RomCompiler.Listing

open Text

/-- **A permutation of the characters that keeps those with a meaning of their own in a listing**,
which are those of `isReserved`. -/
structure Renaming where
  /-- The character that takes the place of a character. -/
  permutation : Equiv.Perm Char
  /-- Blanks, digits and the letter of the mark before them stay what they are. -/
  permutation_of_isReserved : ∀ c, isReserved c = true → permutation c = c

namespace Renaming

instance : CoeFun Renaming fun _ => Char → Char := ⟨fun rename => rename.permutation⟩

/-- **Two free characters trade places**: `exchange first second` is the renaming that does only
this. -/
def exchange (first second : Char) (hfirst : isReserved first = false)
    (hsecond : isReserved second = false) : Renaming where
  permutation := Equiv.swap first second
  permutation_of_isReserved := by
    intro c hc
    have hne : ∀ {other}, isReserved other = false → c ≠ other := by
      rintro other hother rfl
      rw [hc] at hother
      exact Bool.noConfusion hother
    exact Equiv.swap_apply_of_ne_of_ne (hne hfirst) (hne hsecond)

variable (rename : Renaming) {markers : Markers}

/-! ## What is renamed -/

/-- `rename.onText text`: a text with each of its characters renamed. -/
def onText (text : Text) : Text := text.map rename

/-- `rename.onMarkersFault`: the reason why characters can't be markers, about the renamed
characters. -/
def onMarkersFault : Markers.Fault → Markers.Fault
  | .reserved c => .reserved (rename c)
  | .same c => .same (rename c)

/-- `rename.onFault fault`: the same fault about the renamed token. -/
def onFault (fault : Fault) : Fault := { fault with token := rename.onText fault.token }

/-- `rename.onCompilationFault`: why a listing has no image, for the renamed listing. What is wrong
with the size of an image is not about characters. -/
def onCompilationFault : Compilation.Fault → Compilation.Fault
  | .listing fault => .listing (rename.onFault fault)
  | .image fault => .image fault

/-! ## Classes of characters -/

/-- `isReserved (rename c) = isReserved c`: a character has a meaning of its own exactly if it has
one after it is renamed. -/
theorem isReserved_apply (c : Char) : isReserved (rename c) = isReserved c := by
  by_cases hc : isReserved c = true
  · rw [rename.permutation_of_isReserved c hc]
  · by_cases hrenamed : isReserved (rename c) = true
    · -- the renamed character is kept, so it is renamed from itself only
      have hkept := rename.permutation_of_isReserved _ hrenamed
      rw [rename.permutation.injective hkept] at hrenamed
      exact absurd hrenamed hc
    · rw [Bool.not_eq_true] at hc hrenamed
      rw [hc, hrenamed]

/-- `rename.onMarkers markers`: the markers with their characters renamed. -/
def onMarkers (markers : Markers) : Markers where
  separator := rename markers.separator
  comment := rename markers.comment
  separator_free := (rename.isReserved_apply _).trans markers.separator_free
  comment_free := (rename.isReserved_apply _).trans markers.comment_free
  separator_ne_comment := rename.permutation.injective.ne markers.separator_ne_comment

/-- `p (rename c) = p c`: a class of characters with a meaning of their own is the same after
renaming. -/
theorem apply_of_forall_isReserved {p : Char → Bool} (h : ∀ c, p c = true → isReserved c = true)
    (c : Char) : p (rename c) = p c := by
  by_cases hc : isReserved c = true
  · rw [rename.permutation_of_isReserved c hc]
  · have hnot : ∀ {other}, isReserved other = isReserved c → p other = false := by
      intro other hother
      rw [Bool.eq_false_iff]
      intro hp
      exact hc (hother ▸ h other hp)
    rw [hnot (rename.isReserved_apply c), hnot rfl]

/-- `isBlank (rename c) = isBlank c`: the renamed character is a blank if the character is. -/
theorem isBlank_apply (c : Char) : isBlank (rename c) = isBlank c := by
  apply rename.apply_of_forall_isReserved
  intro other hother
  simp [isReserved, hother]

/-- `isLineEnd (rename c) = isLineEnd c`: the renamed character ends a line if the character does.
-/
theorem isLineEnd_apply (c : Char) : isLineEnd (rename c) = isLineEnd c := by
  apply rename.apply_of_forall_isReserved
  intro other hother
  simp [isReserved, isBlank_of_isLineEnd hother]

/-- `rename c = other ↔ c = other`: only a character with a meaning of its own is renamed to itself
as such. -/
theorem apply_eq_iff {c other : Char} (h : isReserved other = true) :
    rename c = other ↔ c = other := by
  have hother := rename.permutation_of_isReserved other h
  constructor
  · intro hc
    exact rename.permutation.injective (hc.trans hother.symm)
  · rintro rfl
    exact hother

/-- `rename c ≠ rename other ↔ c ≠ other`: different characters stay different. -/
theorem apply_ne_apply {c other : Char} : rename c ≠ rename other ↔ c ≠ other :=
  rename.permutation.injective.ne_iff

/-! ## Texts -/

/-- The parts of a text are renamed one by one. -/
@[simp] theorem onText_append (text other : Text) :
    rename.onText (text ++ other) = rename.onText text ++ rename.onText other :=
  List.map_append

/-- `rename.onText (c :: text) = rename c :: rename.onText text`: the characters of a text are
renamed one by one. -/
@[simp] theorem onText_cons (c : Char) (text : Text) :
    rename.onText (c :: text) = rename c :: rename.onText text := rfl

/-- `rename.onText text = [] ↔ text = []`: nothing is left of no text. -/
@[simp] theorem onText_eq_nil_iff {text : Text} : rename.onText text = [] ↔ text = [] :=
  List.map_eq_nil_iff

/-- `rename.onText text = text`: a text of characters with a meaning of their own stays as it is. -/
theorem onText_eq_self {text : Text} (h : ∀ c ∈ text, isReserved c = true) :
    rename.onText text = text := by
  rw [onText, List.map_congr_left fun c hc => rename.permutation_of_isReserved c (h c hc),
    List.map_id']

/-- `rename c ∈ rename.onText text ↔ c ∈ text`: a character is in a text if it is so after renaming.
-/
theorem apply_mem_onText {c : Char} {text : Text} : rename c ∈ rename.onText text ↔ c ∈ text :=
  List.mem_map_of_injective rename.permutation.injective

/-- `AllBlank (rename.onText text) ↔ AllBlank text`: a text is blank if it is so after renaming. -/
theorem allBlank_onText {text : Text} : AllBlank (rename.onText text) ↔ AllBlank text := by
  simp [AllBlank, onText, rename.isBlank_apply]

/-- `Tight (rename.onText text) ↔ Tight text`: a text has no blanks at its ends if it has none after
renaming. -/
theorem tight_onText {text : Text} : Tight (rename.onText text) ↔ Tight text := by
  simp [Tight, onText, rename.isBlank_apply]

/-- `NoEnds (rename.onText text) ↔ NoEnds text`: a text ends no line if it does not after renaming.
-/
theorem noEnds_onText {text : Text} : NoEnds (rename.onText text) ↔ NoEnds text := by
  simp [NoEnds, onText, rename.isLineEnd_apply]

/-- `trim (rename.onText text) = rename.onText (trim text)`: trimming commutes with renaming. -/
theorem trim_onText (text : Text) : trim (rename.onText text) = rename.onText (trim text) := by
  obtain ⟨before, after, hbefore, hafter, heq⟩ := exists_eq_append_trim text
  have hbefore' := rename.allBlank_onText.mpr hbefore
  have hafter' := rename.allBlank_onText.mpr hafter
  have htight := rename.tight_onText.mpr (tight_trim text)
  calc trim (rename.onText text)
      = trim (rename.onText before ++ rename.onText (trim text) ++ rename.onText after) := by
        rw [← onText_append, ← onText_append, ← heq]
    _ = trim (rename.onText (trim text)) := trim_append hbefore' hafter' _
    _ = rename.onText (trim text) := htight.trim_eq

/-! ## Lines, tokens and bytes -/

/-- `rename.onText terminator = terminator`: the end of a line stays as it is. -/
theorem onText_terminator {terminator : Text} (h : Terminator terminator) :
    rename.onText terminator = terminator := by
  apply rename.onText_eq_self
  intro c hc
  have hcases : c = '\r' ∨ c = '\n' := by
    cases h with
    | lineFeed => exact Or.inr (List.mem_singleton.mp hc)
    | pair => simpa using hc
    | carriageReturn => exact Or.inl (List.mem_singleton.mp hc)
  rcases hcases with rfl | rfl
  · decide
  · decide

/-- `Parted terminator (rename.onText rest)`: where no end is cut, none is cut after renaming. -/
theorem parted_onText {terminator rest : Text} (h : Parted terminator rest) :
    Parted terminator (rename.onText rest) := by
  rintro ⟨hlast, hhead⟩
  rcases rest with _ | ⟨c, rest⟩
  · exact absurd hhead (by simp [onText])
  · have hc : c = '\n' := (rename.apply_eq_iff (by decide)).mp (Option.some.inj hhead)
    exact h ⟨hlast, congrArg some hc⟩

/-- **The lines of a renamed text are the renamed lines.** -/
theorem openLines_onText (text : Text) :
    openLines (rename.onText text) = (openLines text).map rename.onText := by
  induction text using lineInduction with
  | last line hline =>
    rw [openLines_of_noEnds hline, openLines_of_noEnds (rename.noEnds_onText.mpr hline)]
    rfl
  | step line terminator rest hline hend hparted ih =>
    rw [onText_append, onText_append, rename.onText_terminator hend,
      openLines_append_terminator (rename.noEnds_onText.mpr hline) hend
        (rename.parted_onText hparted),
      openLines_append_terminator hline hend hparted, ih]
    rfl

/-- The token of a renamed field is the renamed token. -/
theorem fieldTokens_onText_of_notMem {separator : Char} {field : Text} (h : separator ∉ field) :
    fieldTokens (rename separator) (rename.onText field) =
      (fieldTokens separator field).map rename.onText := by
  rw [fieldTokens_of_notMem h, fieldTokens_of_notMem (mt rename.apply_mem_onText.mp h),
    rename.trim_onText]
  simp only [onText_eq_nil_iff]
  split <;> rfl

/-- The tokens of a renamed text are the renamed tokens, if its separator is renamed, too. -/
theorem fieldTokens_onText (separator : Char) (text : Text) :
    fieldTokens (rename separator) (rename.onText text) =
      (fieldTokens separator text).map rename.onText := by
  induction text using fieldInduction separator with
  | last field hfield => exact rename.fieldTokens_onText_of_notMem hfield
  | step field rest hfield ih =>
    rw [onText_append, onText_cons, fieldTokens_append, fieldTokens_append,
      rename.fieldTokens_onText_of_notMem hfield, ih, List.map_append]

/-- The part of a renamed line before its comment is the renamed part. -/
theorem uncommented_onText (line : Text) :
    uncommented (rename.onMarkers markers) (rename.onText line) =
      rename.onText (uncommented markers line) := by
  have hmarker : (fun c => c != rename markers.comment) ∘ rename.permutation =
      fun c => c != markers.comment := by
    funext c
    rw [Function.comp_apply, Bool.eq_iff_iff, bne_iff_ne, bne_iff_ne]
    exact rename.apply_ne_apply
  rw [uncommented, onText, List.takeWhile_map]
  exact congrArg (fun p => rename.onText (line.takeWhile p)) hmarker

/-- **The tokens of a renamed line are the renamed tokens.** -/
theorem tokens_onText (line : Text) :
    tokens (rename.onMarkers markers) (rename.onText line) =
      (tokens markers line).map rename.onText := by
  rw [tokens_eq_fieldTokens, tokens_eq_fieldTokens, rename.uncommented_onText]
  exact rename.fieldTokens_onText markers.separator _

/-- A token is written as a number if it is so after renaming: no character of it is renamed. -/
theorem written_onText {token : Text} {n : Nat} :
    Token.Written (rename.onText token) n ↔ Token.Written token n := by
  have hkept : ∀ {text : Text}, Token.Written text n → rename.onText text = text :=
    fun h => rename.onText_eq_self fun _ hc => h.isReserved_of_mem hc
  constructor
  · intro h
    have hsame : rename.onText token = token := by
      apply rename.onText_eq_self
      intro c hc
      rw [← rename.isReserved_apply]
      exact h.isReserved_of_mem (rename.apply_mem_onText.mpr hc)
    rwa [hsame] at h
  · intro h
    rwa [hkept h]

/-- **A renamed token is the same byte, or it is as wrong as before**:
`Token.decode (rename.onText token) = Token.decode token`. -/
theorem decode_onText (token : Text) :
    Token.decode (rename.onText token) = Token.decode token := by
  by_cases h : ∃ n, Token.Written token n
  · obtain ⟨n, hn⟩ := h
    rw [Token.decode_of_written hn, Token.decode_of_written (rename.written_onText.mpr hn)]
  · have hrenamed : ¬ ∃ n, Token.Written (rename.onText token) n := by
      simpa only [rename.written_onText] using h
    rw [Token.decode_of_not_written h, Token.decode_of_not_written hrenamed]

/-! ## Listings -/

/-- The tokens of renamed lines are the renamed tokens in the same lines. -/
theorem placedFrom_onText (number : Nat) (lines : List Text) :
    placedFrom (rename.onMarkers markers) number (lines.map rename.onText) =
      (placedFrom markers number lines).map fun item => (item.1, rename.onText item.2) := by
  induction lines generalizing number with
  | nil => rfl
  | cons line lines ih =>
    rw [List.map_cons, placedFrom_cons, placedFrom_cons, rename.tokens_onText, ih,
      List.map_append, List.map_map, List.map_map]
    rfl

/-- **A renamed listing has the same bytes, or the same fault with its token renamed.** -/
theorem outcome_parse_onText (markers : Markers) (source : Text) :
    (parse (rename.onMarkers markers) (rename.onText source)).outcome =
      (parse markers source).outcome.mapError rename.onFault := by
  rw [outcome_parse, outcome_parse, placedTokens, rename.openLines_onText,
    rename.placedFrom_onText]
  exact decodePlaced_map_of_decode_eq (fun item => rename.decode_onText item.2) _

/-- Renamed characters can be markers if the characters can, or else they can't for the same
reason. -/
theorem ofChars_apply (separator comment : Char) :
    Markers.ofChars (rename separator) (rename comment) =
      ((Markers.ofChars separator comment).map rename.onMarkers).mapError
        rename.onMarkersFault := by
  simp only [Markers.ofChars, rename.isReserved_apply, rename.permutation.apply_eq_iff_eq]
  split
  · rfl
  · split
    · rfl
    · split <;> rfl

/-- A renamed listing has the image of the listing, or it has none for the same reason. -/
theorem outcome_compile_onText (allocator : Allocator) (markers : Markers)
    (source : Option Text) (size : Nat) :
    (compile allocator (rename.onMarkers markers) (source.map rename.onText) size).outcome =
      (compile allocator markers source size).outcome.mapError rename.onCompilationFault := by
  have hsame : (Compilation.code (rename.onMarkers markers) (source.map rename.onText)).outcome =
      (Compilation.code markers source).outcome.mapError rename.onFault := by
    rcases source with _ | text
    · rfl
    · exact rename.outcome_parse_onText markers text
  rcases hcode : (Compilation.code markers source).outcome with fault | code
  · rw [hcode] at hsame
    rw [outcome_compile_of_listing_error hsame, outcome_compile_of_listing_error hcode]
    rfl
  · rw [hcode] at hsame
    rw [outcome_compile_of_listing_ok hsame, outcome_compile_of_listing_ok hcode]
    rcases (Image.build allocator code size).outcome with fault | image <;> rfl

end Renaming

/-- **Other markers change how a listing is cut into tokens and nothing else.** If all characters
without a meaning of their own trade places by a `Renaming`, the same pairs of characters can be
markers, and the others can't for the same reason (`rename.onMarkersFault`). A listing that is
renamed like its markers, by `rename.onText`, has the same bytes, or a fault of the same kind in the
same line, about the renamed token (`rename.onFault`). It has the same image of each size, or none
for the same reason. -/
theorem compile_renamed (allocator : Allocator) (rename : Renaming) :
    (∀ separator comment, Markers.ofChars (rename separator) (rename comment) =
      ((Markers.ofChars separator comment).map rename.onMarkers).mapError
        rename.onMarkersFault) ∧
    (∀ markers source, (parse (rename.onMarkers markers) (rename.onText source)).outcome =
      (parse markers source).outcome.mapError rename.onFault) ∧
    ∀ markers source size,
      (compile allocator (rename.onMarkers markers) (source.map rename.onText) size).outcome =
        (compile allocator markers source size).outcome.mapError rename.onCompilationFault :=
  ⟨rename.ofChars_apply, rename.outcome_parse_onText, rename.outcome_compile_onText allocator⟩

-- the comma is no separator any more, but part of a token that is not a byte
example :
    let rename := Renaming.exchange ',' '→' (by decide) (by decide)
    (rename.onMarkers default).separator = '→' ∧
    rename.onText ['1', ',', '2', '\n', ',', '→'] = ['1', '→', '2', '\n', '→', ','] ∧
    (parse default ['1', ',', '2', '\n', ',', '→']).outcome = .error ⟨2, ['→'], .malformed⟩ ∧
    (parse (rename.onMarkers default) ['1', '→', '2', '\n', '→', ',']).outcome =
      .error ⟨2, [','], .malformed⟩ := by
  decide

end RomCompiler.Listing
