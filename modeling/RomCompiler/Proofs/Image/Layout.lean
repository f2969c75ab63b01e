import RomCompiler.Proofs.Image.Build

/-! # What is where in an image

The byte of every place of an image is told by its index alone: half of the start address in the
reset vector, the code wherever else it reaches, and filler in all other places. Which image there
is, or why there is none, is told by the two lengths and by the memory.
* **`Image.placedByte`**, **`Image.LaidOut`** — the byte of a place, and an image all of whose
  places are right.
* **`Image.copyTo?`** — code copied to the start of a memory; **`Image.copyTo?_replicate`** —
  padding code is copying it over filler.
* **`Image.getElem?_of_build`**, **`Image.laidOut_of_build`** — the images that are built are laid
  out in this way.
* **`Image.build_laidOut`** — this image, or the fault that comes first, for every code and size. -/

namespace RomCompiler.Image

variable {allocator : Allocator} {code : Bytes} {size : Nat} {image : Image}

/-- **The byte in place `i` of an image around some code.** The reset vector takes precedence over
the code. -/
def placedByte (code : Bytes) (i : Nat) : UInt8 :=
  if i = 0x7ffc then 0x00
  else if i = 0x7ffd then 0x80
  else if h : i < code.length then code[i]
  else 0xea

/-- **An image of the given size around some code**: `LaidOut code size image`, with the
`placedByte` in each of its places. -/
structure LaidOut (code : Bytes) (size : Nat) (image : Image) : Prop where
  /-- It has the size that was asked for. -/
  size_eq : image.size = size
  /-- So much memory can be had. -/
  size_lt : size < 0x8000000000000000
  /-- It is not empty. -/
  isEmpty_eq : image.isEmpty = false
  /-- It tells how long the code is. -/
  codeLength_eq : image.codeLength = code.length
  /-- The code has room in it. -/
  codeLength_le : image.codeLength ≤ image.size
  /-- The processor starts at its first byte. -/
  startsAt_eq : image.startsAt? = some 0x8000
  /-- Every place has its byte. -/
  getElem?_eq : ∀ i < size, image.bytes[i]? = some (placedByte code i)

/-- `copyTo? memory code`: the memory with code copied to its start, if the memory is long enough.
-/
def copyTo? (memory code : Bytes) : Option Bytes :=
  if code.length ≤ memory.length then some (code ++ memory.drop code.length) else none

/-! ## The code and the filler -/

/-- **Code that is padded to a size is copied over as much filler.** -/
theorem copyTo?_replicate (h : code.length ≤ size) :
    copyTo? (List.replicate size filler) code = some (padded code size) := by
  rw [copyTo?, if_pos (by simpa using h), List.drop_replicate, padded]

/-- A place of padded code has the code as far as it reaches, and filler after it. -/
theorem getElem?_padded {i : Nat} (h : i < size) :
    (padded code size)[i]? = some (if h : i < code.length then code[i] else filler) := by
  rw [padded]
  by_cases hcode : i < code.length
  · rw [List.getElem?_append_left hcode, dif_pos hcode, List.getElem?_eq_getElem hcode]
  · have hfiller : i - code.length < size - code.length := by omega
    rw [List.getElem?_append_right (Nat.le_of_not_lt hcode), dif_neg hcode,
      List.getElem?_replicate, if_pos hfiller]

/-! ## Every place of an image -/

/-- **Each place of a built image has the byte that its index tells**:
`image.bytes[i]? = some (placedByte code i)`. -/
theorem getElem?_of_build (h : (build allocator code size).outcome = .ok image) {i : Nat}
    (hi : i < size) : image.bytes[i]? = some (placedByte code i) := by
  obtain ⟨-, -, -, hbytes, -⟩ := build_eq_ok_iff.mp h
  rw [Word.getElem?_of_put? hbytes, getElem?_padded hi, placedByte]
  -- the two bytes of the start address, and otherwise what the padded code has
  by_cases hlow : i = 0x7ffc
  · rw [if_pos (show i = resetVector from hlow), if_pos hlow]
    rfl
  · rw [if_neg (show i ≠ resetVector from hlow), if_neg hlow]
    by_cases hhigh : i = 0x7ffd
    · rw [if_pos (show i = resetVector + 1 from hhigh), if_pos hhigh]
      rfl
    · rw [if_neg (show i ≠ resetVector + 1 from hhigh), if_neg hhigh]
      rfl

/-- **A built image is laid out around its code**: `LaidOut code size image`. -/
theorem laidOut_of_build (h : (build allocator code size).outcome = .ok image) :
    LaidOut code size image := by
  have hsize : image.bytes.length = size := length_bytes_of_build h
  obtain ⟨hcode, hminimum, hgrants, hbytes, hlength⟩ := build_eq_ok_iff.mp h
  have hpos : 0 < image.bytes.length := by
    rw [hsize]
    exact Nat.lt_of_lt_of_le (by decide) hminimum
  constructor
  case size_eq => exact hsize
  case size_lt =>
    refine Nat.lt_of_not_le fun hlarge => ?_
    rw [allocator.grants_eq_false size hlarge] at hgrants
    exact absurd hgrants (by decide)
  case isEmpty_eq => exact List.isEmpty_eq_false_iff.mpr (List.ne_nil_of_length_pos hpos)
  case codeLength_eq => exact hlength
  case codeLength_le =>
    rw [hlength, Image.size, hsize]
    exact hcode
  case startsAt_eq => exact Word.get?_of_put? hbytes
  case getElem?_eq => exact fun i hi => getElem?_of_build h hi

/-- `image.bytes = (List.range size).map (placedByte code)`: the bytes of a built image are those of
its places, in their order. -/
theorem bytes_eq_of_build (h : (build allocator code size).outcome = .ok image) :
    image.bytes = (List.range size).map (placedByte code) := by
  apply List.ext_getElem?
  intro i
  by_cases hi : i < size
  · rw [getElem?_of_build h hi, List.getElem?_map, List.getElem?_range hi]
    rfl
  · have hbytes : image.bytes.length ≤ i := by
      rw [length_bytes_of_build h]
      exact Nat.le_of_not_lt hi
    have hplaces : ((List.range size).map (placedByte code)).length ≤ i := by
      simpa using hi
    rw [List.getElem?_eq_none hbytes, List.getElem?_eq_none hplaces]

/-! ## All the ends of building -/

/-- What building ends with is told by the two lengths and by the memory, which are looked at in
this order. -/
theorem outcome_build (allocator : Allocator) (code : Bytes) (size : Nat) :
    (build allocator code size).outcome =
      if size < code.length then .error (.tooSmallForCode size code.length)
      else if size < minimumSize then .error (.tooSmallForVector size resetVector)
      else if allocator.grants size then
        .ok ⟨(List.range size).map (placedByte code), code.length⟩
      else .error (.noMemory size) := by
  split
  · next hcode => rw [build_of_lt_length allocator hcode]
  · next hcode =>
    have hcode : code.length ≤ size := Nat.le_of_not_lt hcode
    split
    · next hsize => rw [build_of_lt_minimumSize allocator hcode hsize]
    · next hsize =>
      have hsize : minimumSize ≤ size := Nat.le_of_not_lt hsize
      split
      · next hgrants =>
        obtain ⟨bytes, hbytes⟩ := exists_put?_padded hcode hsize
        have hbuilt := build_of_grants hcode hsize hgrants hbytes
        rw [hbuilt, ← bytes_eq_of_build hbuilt]
      · next hgrants => rw [build_of_not_grants hcode hsize (by simpa using hgrants)]

/-- `code.length ≤ size ∧ minimumSize ≤ size`: the record about building is written when the image
has room for everything. -/
theorem le_of_building_mem (h : .building size code.length ∈ (build allocator code size).log) :
    code.length ≤ size ∧ minimumSize ≤ size := by
  have hcode : code.length ≤ size := by
    refine Nat.le_of_not_lt fun hlt => ?_
    rw [build_of_lt_length allocator hlt] at h
    exact List.not_mem_nil h
  refine ⟨hcode, Nat.le_of_not_lt fun hlt => ?_⟩
  rw [build_of_lt_minimumSize allocator hcode hlt] at h
  exact List.not_mem_nil h

/-- **Building ends as the lengths and the memory say.** The image is too small for the code, or
else too small for the reset vector, or else `allocator.grants size` is false, or else there is an
image, and it is `LaidOut` around the code. Once building is under way, the code can be copied over
the filler, which gives `padded code size`, and the start address written after that, so that
nothing but memory can be missing. -/
theorem build_laidOut (allocator : Allocator) (code : Bytes) (size : Nat) :
    let built := build allocator code size
    (∀ total length, built.outcome = .error (.tooSmallForCode total length) ↔
      size < code.length ∧ total = size ∧ length = code.length) ∧
    (∀ total offset, built.outcome = .error (.tooSmallForVector total offset) ↔
      code.length ≤ size ∧ size < 0x7ffe ∧ total = size ∧ offset = 0x7ffc) ∧
    (∀ total, built.outcome = .error (.noMemory total) ↔
      code.length ≤ size ∧ 0x7ffe ≤ size ∧ allocator.grants size = false ∧ total = size) ∧
    ((∃ image, built.outcome = .ok image) ↔
      code.length ≤ size ∧ 0x7ffe ≤ size ∧ allocator.grants size = true) ∧
    (∀ image, built.outcome = .ok image → LaidOut code size image) ∧
    (.building size code.length ∈ built.log →
      copyTo? (List.replicate size filler) code = some (padded code size) ∧
      (∃ bytes, Word.put? (padded code size) resetVector startAddress = some bytes) ∧
      ∀ total offset, built.outcome ≠ .error (.tooSmallForVector total offset)) := by
  intro built
  have houtcome := outcome_build allocator code size
  have hvector : resetVector = 0x7ffc := rfl
  have hminimum : minimumSize = 0x7ffe := rfl
  rw [hvector, hminimum] at houtcome
  -- every end is that of one branch, and the conditions of the branches exclude each other
  refine ⟨?_, ?_, ?_, ?_, ?_, ?_⟩
  · grind
  · grind
  · grind
  · grind
  · intro image hbuilt
    exact laidOut_of_build hbuilt
  · intro hrecord
    obtain ⟨hcode, hsize⟩ := le_of_building_mem hrecord
    refine ⟨copyTo?_replicate hcode, exists_put?_padded hcode hsize, ?_⟩
    intro total offset hfault
    grind

end RomCompiler.Image
