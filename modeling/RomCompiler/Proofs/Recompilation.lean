import RomCompiler.Proofs.Image.Build
import RomCompiler.Proofs.Job
import RomCompiler.Proofs.Listing.Grammar
import RomCompiler.Proofs.Numeral.Shortest

/-! # Recompiling an image

The bytes of an image can be written as a listing, in many ways, and each of these listings is
compiled to the same image again.
* **`Listing.Grammar.exists_derives`** — all bytes can be written as a listing.
* **`compile_of_derives`** — a listing is compiled to the image around the bytes it writes.
* **`compile_image_eq`** — listings of an image give this image again, and filler after it if they
  are compiled to a larger one. -/

namespace RomCompiler

namespace Listing.Grammar

variable {markers : Markers}

/-- `Line markers (Nat.toDigits 16 byte.toNat) [byte]`: the shortest digits of a byte are a line. -/
theorem line_toDigits (markers : Markers) (byte : UInt8) :
    Line markers (Nat.toDigits 16 byte.toNat) [byte] := by
  have hspace : Space [] := ⟨Text.allBlank_nil, noEnds_nil⟩
  have hwritten : Token.Written (Nat.toDigits 16 byte.toNat) byte.toNat :=
    .bare Nat.toDigits_ne_nil (Numeral.digits_toDigits (by decide) (by decide) _)
  have hle : byte.toNat ≤ 0xff := Nat.le_of_lt_succ byte.toNat_lt
  have hfield := Field.byte hspace hwritten hle hspace
  rw [List.nil_append, List.append_nil, UInt8.ofNat_toNat] at hfield
  exact .plain (.last hfield)

/-- `Line markers [] []`: an empty text is a line without bytes. -/
theorem line_nil (markers : Markers) : Line markers [] [] :=
  .plain (.last (.empty ⟨Text.allBlank_nil, noEnds_nil⟩))

/-- **All bytes can be written as a listing, for instance with one in each line**:
`∃ listing, Derives markers listing bytes`. -/
theorem exists_derives (markers : Markers) (bytes : Bytes) :
    ∃ listing, Derives markers listing bytes := by
  induction bytes with
  | nil => exact ⟨[], .last (line_nil markers)⟩
  | cons byte bytes ih =>
    obtain ⟨listing, hrest⟩ := ih
    exact ⟨_, .step (line_toDigits markers byte) .lineFeed hrest⟩

/-- A line that is repeated writes its bytes as many times. -/
theorem derives_replicate_append {line terminator rest : Text} {first second : Bytes}
    (hline : Line markers line first) (hend : Terminator terminator)
    (hrest : Derives markers rest second) (count : Nat) :
    Derives markers ((List.replicate count (line ++ terminator)).flatten ++ rest)
      ((List.replicate count first).flatten ++ second) := by
  induction count with
  | zero => exact hrest
  | succ count ih =>
    rw [List.replicate_succ, List.replicate_succ, List.flatten_cons, List.flatten_cons,
      List.append_assoc (line ++ terminator), List.append_assoc first]
    exact .step hline hend ih

end Listing.Grammar

variable {allocator : Allocator} {code : Bytes} {size : Nat} {image : Image}

/-- **A listing is compiled to the image around the bytes that it writes.** -/
theorem compile_of_derives {markers : Listing.Markers} {listing : Text} {bytes : Bytes}
    (h : Listing.Grammar.Derives markers listing bytes)
    (hbuild : (Image.build allocator bytes size).outcome = .ok image) :
    (compile allocator markers (some listing) size).outcome = .ok image := by
  have hcode : (Compilation.code markers (some listing)).outcome = .ok bytes :=
    Listing.outcome_parse_eq_ok_iff.mpr h.decodes
  rw [outcome_compile_of_listing_ok hcode, hbuild]
  rfl

/-- **Recompiling an image is a fixed point.** The bytes of every image can be written as a listing.
Whichever listing `Grammar.Derives` them, with whatever markers, `compile` gives the same image for
it, but for the code that now is all of it. A larger image has `Image.filler` after it, which makes
up `larger - size` bytes. -/
theorem compile_image_eq (hbuild : (Image.build allocator code size).outcome = .ok image)
    (markers : Listing.Markers) :
    (∃ listing, Listing.Grammar.Derives markers listing image.bytes) ∧
    ∀ listing, Listing.Grammar.Derives markers listing image.bytes →
      (compile allocator markers (some listing) size).outcome = .ok ⟨image.bytes, size⟩ ∧
      ∀ larger, size ≤ larger → allocator.grants larger = true →
        (compile allocator markers (some listing) larger).outcome =
          .ok ⟨image.bytes ++ List.replicate (larger - size) Image.filler, size⟩ := by
  refine ⟨Listing.Grammar.exists_derives markers image.bytes, ?_⟩
  intro listing hlisting
  constructor
  · have hgrants := (Image.build_eq_ok_iff.mp hbuild).2.2.1
    -- an image of the same size has no place for more filler
    have hsame := Image.build_of_build hbuild (Nat.le_refl size) hgrants
    rw [Nat.sub_self, List.replicate_zero, List.append_nil] at hsame
    exact compile_of_derives hlisting hsame
  · intro larger hle hgrants
    exact compile_of_derives hlisting (Image.build_of_build hbuild hle hgrants)

/-- The image of code that runs into the reset vector, and a listing of it with marks, comments,
leading zeros and an empty field. -/
theorem compile_image_eq_covered :
    (Image.build .addressSpace (List.replicate 0x7ffc 0xa9 ++ [0x11, 0x22]) 0x7ffe).outcome =
      .ok ⟨List.replicate 0x7ffc 0xa9 ++ [0x00, 0x80], 0x7ffe⟩ ∧
    let listing := (List.replicate 0x7ffc
        (['0', 'X', 'a', '9', ' ', ';', 'L', 'D', 'A'] ++ ['\r', '\n'])).flatten ++
      ['0', 'x', '0', '0', '0', ' ', ',', ',', '8', '0']
    Listing.Grammar.Derives default listing (List.replicate 0x7ffc 0xa9 ++ [0x00, 0x80]) ∧
      (compile .addressSpace default (some listing) 0x7ffe).outcome =
        .ok ⟨List.replicate 0x7ffc 0xa9 ++ [0x00, 0x80], 0x7ffe⟩ ∧
      (compile .addressSpace default (some listing) 0x8000).outcome =
        .ok ⟨List.replicate 0x7ffc 0xa9 ++ [0x00, 0x80] ++ [0xea, 0xea], 0x7ffe⟩ := by
  have hlength : (List.replicate 0x7ffc (0xa9 : UInt8)).length = Image.resetVector :=
    List.length_replicate
  have hcode : (List.replicate 0x7ffc (0xa9 : UInt8) ++ [0x11, 0x22]).length = 0x7ffe := by
    rw [List.length_append, hlength]
    rfl
  have hput := Word.put?_append_cons_cons (List.replicate 0x7ffc 0xa9) [] 0x11 0x22
    Image.startAddress
  have hpadded : Image.padded (List.replicate 0x7ffc 0xa9 ++ [0x11, 0x22]) 0x7ffe =
      List.replicate 0x7ffc 0xa9 ++ [0x11, 0x22] := by
    rw [Image.padded, hcode, Nat.sub_self, List.replicate_zero, List.append_nil]
  rw [hlength, ← hpadded] at hput
  have hbuild := Image.build_of_grants (Nat.le_of_eq hcode) (by decide)
    (by decide : Allocator.addressSpace.grants 0x7ffe = true) hput
  rw [hcode] at hbuild
  have hends : Listing.NoEnds ['0', 'X', 'a', '9', ' ', ';', 'L', 'D', 'A'] := by
    simp [Listing.isLineEnd]
  have hline : Listing.Grammar.Line default ['0', 'X', 'a', '9', ' ', ';', 'L', 'D', 'A']
      [0xa9] := by
    apply Listing.Grammar.line_of_decodes hends
    rw [← Listing.listingTokens_of_noEnds hends]
    exact Listing.outcome_parse_eq_ok_iff.mp rfl
  have hlast : Listing.Grammar.Derives default
      ['0', 'x', '0', '0', '0', ' ', ',', ',', '8', '0'] [0x00, 0x80] :=
    Listing.Grammar.derives_of_decodes (Listing.outcome_parse_eq_ok_iff.mp rfl)
  have hlisting := Listing.Grammar.derives_replicate_append hline .pair hlast 0x7ffc
  rw [List.flatten_replicate_singleton] at hlisting
  obtain ⟨hsame, hlarger⟩ := (compile_image_eq hbuild default).2 _ hlisting
  exact ⟨hbuild, hlisting, hsame, hlarger 0x8000 (by decide) (by decide)⟩

end RomCompiler
