import Mathlib.Data.Set.Subsingleton
import RomCompiler.Proofs.Listing.Placed

/-! # The grammar of listings

A listing is lines with ends between them, a line is fields with separators between them and
perhaps a comment, and a field is a byte or nothing, with blanks around it. The grammar says so
without a word on how a text is cut or trimmed.
* **`Grammar.Field`**, **`Grammar.Fields`**, **`Grammar.Line`**, **`Grammar.Derives`** — the
  derivations, each with the bytes that are written.
* **`Grammar.Derives.decodes`** — what is derived is decoded to its bytes.
* **`Grammar.derives_of_decodes`** — what is decoded has a derivation.
* **`parse_eq_ok_iff_derives`** — a listing is accepted if it has a derivation, with the bytes that
  all its derivations give. -/

namespace RomCompiler.Listing

open Text

namespace Grammar

/-- **What may stand between two separators**: `Field text bytes`, with one byte or none. -/
inductive Field : Text → Bytes → Prop
  /-- There is no byte. -/
  | empty {space : Text} (h : Space space) : Field space []
  /-- There is a number that fits in a byte. -/
  | byte {before token after : Text} {n : Nat} (hbefore : Space before)
      (htoken : Token.Written token n) (hn : n ≤ 0xff) (hafter : Space after) :
      Field (before ++ token ++ after) [UInt8.ofNat n]

/-- **Fields with separators between them**: `Fields separator text bytes`. -/
inductive Fields (separator : Char) : Text → Bytes → Prop
  /-- There is one field. -/
  | last {field : Text} {bytes : Bytes} (h : Field field bytes) : Fields separator field bytes
  /-- There are more fields after the first separator. -/
  | step {field rest : Text} {first second : Bytes} (h : Field field first)
      (hrest : Fields separator rest second) :
      Fields separator (field ++ separator :: rest) (first ++ second)

/-- **Fields and perhaps a comment**: `Line markers text bytes`. -/
inductive Line (markers : Markers) : Text → Bytes → Prop
  /-- There is no comment. -/
  | plain {fields : Text} {bytes : Bytes} (h : Fields markers.separator fields bytes) :
      Line markers fields bytes
  /-- A comment goes on to the end of the line. -/
  | commented {fields comment : Text} {bytes : Bytes} (h : Fields markers.separator fields bytes)
      (hcomment : NoEnds comment) : Line markers (fields ++ markers.comment :: comment) bytes

/-- **Lines with ends between them**: `Derives markers text bytes`. Nothing is said about where an
end stops, so that a carriage return and a line feed may also be two ends with an empty line between
them. -/
inductive Derives (markers : Markers) : Text → Bytes → Prop
  /-- There is one line. -/
  | last {line : Text} {bytes : Bytes} (h : Line markers line bytes) : Derives markers line bytes
  /-- There are more lines after the first end. -/
  | step {line terminator rest : Text} {first second : Bytes} (h : Line markers line first)
      (hend : Terminator terminator) (hrest : Derives markers rest second) :
      Derives markers (line ++ terminator ++ rest) (first ++ second)

variable {markers : Markers}

/-! ## The characters of a derivation -/

/-- A character that can be a marker is not in a field. -/
theorem Field.notMem {field : Text} {bytes : Bytes} (h : Field field bytes) {c : Char}
    (hc : isReserved c = false) : c ∉ field := by
  have hblank : isBlank c = false := isBlank_of_free hc
  cases h with
  | empty h => exact notMem_of_allBlank h.blank hblank
  | byte hbefore htoken hn hafter =>
    rw [List.mem_append, List.mem_append]
    rintro ((hmem | hmem) | hmem)
    · exact notMem_of_allBlank hbefore.blank hblank hmem
    · exact htoken.notMem hc hmem
    · exact notMem_of_allBlank hafter.blank hblank hmem

/-- A field ends no line. -/
theorem Field.noEnds {field : Text} {bytes : Bytes} (h : Field field bytes) : NoEnds field := by
  cases h with
  | empty h => exact h.noEnds
  | byte hbefore htoken hn hafter =>
    exact noEnds_append.mpr
      ⟨noEnds_append.mpr ⟨hbefore.noEnds, htoken.noEnds⟩, hafter.noEnds⟩

/-- `markers.comment ∉ fields`: no comment begins in fields. -/
theorem Fields.notMem_comment {fields : Text} {bytes : Bytes}
    (h : Fields markers.separator fields bytes) : markers.comment ∉ fields := by
  induction h with
  | last h => exact h.notMem markers.comment_free
  | step h _ ih =>
    rw [List.mem_append, List.mem_cons]
    rintro (hmem | heq | hmem)
    · exact h.notMem markers.comment_free hmem
    · exact markers.separator_ne_comment heq.symm
    · exact ih hmem

/-- Fields end no line. -/
theorem Fields.noEnds {fields : Text} {bytes : Bytes} (h : Fields markers.separator fields bytes) :
    NoEnds fields := by
  induction h with
  | last h => exact h.noEnds
  | step h _ ih =>
    exact noEnds_append.mpr
      ⟨h.noEnds, noEnds_cons.mpr ⟨isLineEnd_of_not_isBlank markers.isBlank_separator, ih⟩⟩

/-- A line does not end inside of itself. -/
theorem Line.noEnds {line : Text} {bytes : Bytes} (h : Line markers line bytes) : NoEnds line := by
  cases h with
  | plain h => exact h.noEnds
  | commented h hcomment =>
    exact noEnds_append.mpr
      ⟨h.noEnds, noEnds_cons.mpr ⟨isLineEnd_of_not_isBlank markers.isBlank_comment, hcomment⟩⟩

/-! ## What is derived is decoded -/

/-- `Decodes (fieldTokens markers.separator field) bytes`: the tokens of a field are its byte. -/
theorem Field.decodes {field : Text} {bytes : Bytes} (h : Field field bytes) :
    Decodes (fieldTokens markers.separator field) bytes := by
  have hseparator := markers.isBlank_separator
  cases h with
  | empty h =>
    rw [fieldTokens_of_allBlank hseparator h.blank]
    exact decodes_nil.mpr rfl
  | byte hbefore htoken hn hafter =>
    rw [fieldTokens_surrounded hseparator hbefore.blank hafter.blank htoken.tight htoken.ne_nil
      (htoken.notMem markers.separator_free)]
    exact decodes_singleton.mpr ⟨_, Token.decode_eq_ok_iff.mpr ⟨_, htoken, hn, rfl⟩, rfl⟩

/-- `Decodes (fieldTokens markers.separator fields) bytes`: the tokens of fields are their bytes. -/
theorem Fields.decodes {fields : Text} {bytes : Bytes} (h : Fields markers.separator fields bytes) :
    Decodes (fieldTokens markers.separator fields) bytes := by
  induction h with
  | last h => exact h.decodes
  | step h _ ih =>
    rw [fieldTokens_append]
    exact decodes_append_iff.mpr ⟨_, _, rfl, h.decodes, ih⟩

/-- `Decodes (tokens markers line) bytes`: the tokens of a line are its bytes. -/
theorem Line.decodes {line : Text} {bytes : Bytes} (h : Line markers line bytes) :
    Decodes (tokens markers line) bytes := by
  rw [tokens_eq_fieldTokens]
  cases h with
  | plain h =>
    rw [uncommented_of_notMem markers h.notMem_comment]
    exact h.decodes
  | commented h _ =>
    rw [uncommented_append markers h.notMem_comment, uncommented_comment_cons, List.append_nil]
    exact h.decodes

/-- **The tokens of a listing are its bytes**: `Decodes (listingTokens markers source) bytes`. -/
theorem Derives.decodes {source : Text} {bytes : Bytes} (h : Derives markers source bytes) :
    Decodes (listingTokens markers source) bytes := by
  induction h with
  | last h =>
    rw [listingTokens_of_noEnds h.noEnds]
    exact h.decodes
  | step h hend _ ih =>
    rw [listingTokens_append_terminator h.noEnds hend]
    exact decodes_append_iff.mpr ⟨_, _, rfl, h.decodes, ih⟩

/-! ## What is decoded has a derivation -/

/-- `Field field bytes`: a text without separators is a field if its tokens are bytes. -/
theorem field_of_decodes {field : Text} {bytes : Bytes} (hends : NoEnds field)
    (hnot : markers.separator ∉ field)
    (h : Decodes (fieldTokens markers.separator field) bytes) : Field field bytes := by
  rw [fieldTokens_of_notMem hnot] at h
  split at h
  · next hnil =>
    rw [decodes_nil.mp h]
    exact .empty ⟨trim_eq_nil_iff.mp hnil, hends⟩
  · -- the blanks that were trimmed are those around the token
    obtain ⟨byte, hbyte, rfl⟩ := decodes_singleton.mp h
    obtain ⟨n, hwritten, hn, rfl⟩ := Token.decode_eq_ok_iff.mp hbyte
    obtain ⟨before, after, hbefore, hafter, heq⟩ := exists_eq_append_trim field
    rw [heq] at hends ⊢
    obtain ⟨hspace, hspace'⟩ := space_of_append hbefore hafter hends
    exact .byte hspace hwritten hn hspace'

/-- `Fields markers.separator text bytes`: a text that ends no line is fields if its tokens are
bytes. -/
theorem fields_of_decodes {text : Text} {bytes : Bytes} (hends : NoEnds text)
    (h : Decodes (fieldTokens markers.separator text) bytes) :
    Fields markers.separator text bytes := by
  induction text using fieldInduction markers.separator generalizing bytes with
  | last field hnot => exact .last (field_of_decodes hends hnot h)
  | step field rest hnot ih =>
    rw [fieldTokens_append] at h
    obtain ⟨first, second, rfl, hfirst, hsecond⟩ := decodes_append_iff.mp h
    rw [noEnds_append, noEnds_cons] at hends
    exact .step (field_of_decodes hends.1 hnot hfirst) (ih hends.2.2 hsecond)

/-- `Line markers line bytes`: a text that ends no line is a line if its tokens are bytes. -/
theorem line_of_decodes {line : Text} {bytes : Bytes} (hends : NoEnds line)
    (h : Decodes (tokens markers line) bytes) : Line markers line bytes := by
  rw [tokens_eq_fieldTokens] at h
  -- a line without a comment is its fields, and in any other the first marker opens the comment
  rcases eq_uncommented_or markers line with hplain | ⟨comment, hcomment⟩
  · rw [← hplain] at h
    exact .plain (fields_of_decodes hends h)
  · rw [hcomment, noEnds_append, noEnds_cons] at hends
    rw [hcomment]
    exact .commented (fields_of_decodes hends.1 h) hends.2.2

/-- **A text is a listing if its tokens are bytes**: `Derives markers source bytes`. -/
theorem derives_of_decodes {source : Text} {bytes : Bytes}
    (h : Decodes (listingTokens markers source) bytes) : Derives markers source bytes := by
  induction source using lineInduction generalizing bytes with
  | last line hline =>
    rw [listingTokens_of_noEnds hline] at h
    exact .last (line_of_decodes hline h)
  | step line terminator rest hline hend _ ih =>
    rw [listingTokens_append_terminator hline hend] at h
    obtain ⟨first, second, rfl, hfirst, hsecond⟩ := decodes_append_iff.mp h
    exact .step (line_of_decodes hline hfirst) hend (ih hsecond)

end Grammar

/-- **A listing is accepted exactly if the grammar derives it**: `parse markers source` gives
`bytes` if and only if `Grammar.Derives markers source bytes`. All derivations of a listing give the
same bytes. -/
theorem parse_eq_ok_iff_derives (markers : Markers) (source : Text) :
    (∀ bytes, (parse markers source).outcome = .ok bytes ↔
      Grammar.Derives markers source bytes) ∧
    {bytes | Grammar.Derives markers source bytes}.Subsingleton := by
  have hiff : ∀ bytes, (parse markers source).outcome = .ok bytes ↔
      Grammar.Derives markers source bytes := by
    intro bytes
    rw [outcome_parse_eq_ok_iff]
    exact ⟨Grammar.derives_of_decodes, fun h => h.decodes⟩
  refine ⟨hiff, ?_⟩
  -- decoding is a function, so what it agrees with has one value
  intro bytes hbytes others hothers
  exact Except.ok.inj (((hiff bytes).mpr hbytes).symm.trans ((hiff others).mpr hothers))

-- an empty field, an end of two characters, and a comment that is not a byte
example : (parse default ['0', 'x', '1', ',', '\r', '\n', ' ', 'f', 'F', ';', 'z']).outcome =
    .ok [0x01, 0xff] := by
  rfl

end RomCompiler.Listing
