import RomCompiler.Image.Build
import RomCompiler.Proofs.Word

/-! # When there is an image, and which one

There is an image of a size around some code if the size is large enough for the code and for the
reset vector, and has memory. Its bytes are the padded code with the start address in its place, so
that they are code around which the same image is built again.
* **`Image.build_of_lt_length`**, **`Image.build_of_lt_minimumSize`**,
  **`Image.build_of_not_grants`**, **`Image.build_eq_of_grants`** — the four ends of building, in
  the order in which they are looked for; **`Image.build_eq_ok_iff`** puts them together.
* **`Image.build_of_build`** — the image around the bytes of another one. -/

namespace RomCompiler.Image

variable {allocator : Allocator} {code : Bytes} {size : Nat} {image : Image}

/-! ## The ends of building -/

/-- **Code that does not fit is told first.** -/
theorem build_of_lt_length (allocator : Allocator) (h : size < code.length) :
    build allocator code size = ⟨[], .error (.tooSmallForCode size code.length)⟩ := by
  rw [build, if_pos h]
  rfl

/-- **A reset vector that does not fit is told if the code does.** -/
theorem build_of_lt_minimumSize (allocator : Allocator) (hcode : code.length ≤ size)
    (h : size < minimumSize) :
    build allocator code size = ⟨[], .error (.tooSmallForVector size resetVector)⟩ := by
  rw [build, if_neg (Nat.not_lt.mpr hcode), if_pos h]
  rfl

/-- **Memory is asked for when everything fits.** -/
theorem build_of_not_grants (hcode : code.length ≤ size) (hsize : minimumSize ≤ size)
    (h : allocator.grants size = false) :
    build allocator code size = ⟨[.building size code.length], .error (.noMemory size)⟩ := by
  rw [build, if_neg (Nat.not_lt.mpr hcode), if_neg (Nat.not_lt.mpr hsize), h]
  rfl

/-- The start address can be written into padded code of a sufficient size. -/
theorem exists_put?_padded (hcode : code.length ≤ size) (hsize : minimumSize ≤ size) :
    ∃ bytes, Word.put? (padded code size) resetVector startAddress = some bytes := by
  refine ⟨_, Word.put?_eq_some_iff.mpr ⟨?_, rfl⟩⟩
  rw [length_padded hcode]
  exact hsize

/-- **With memory there is an image: the padded code with the start address written last.** Code
that it covers is told. -/
theorem build_eq_of_grants {bytes : Bytes} (hcode : code.length ≤ size)
    (hsize : minimumSize ≤ size) (h : allocator.grants size = true)
    (hbytes : Word.put? (padded code size) resetVector startAddress = some bytes) :
    build allocator code size =
      ⟨.building size code.length ::
        if resetVector < code.length then [.vectorCovered resetVector resetVectorEnd] else [],
        .ok ⟨bytes, code.length⟩⟩ := by
  rw [build, if_neg (Nat.not_lt.mpr hcode), if_neg (Nat.not_lt.mpr hsize), h, hbytes]
  by_cases hcovered : resetVector < code.length
  · rw [if_pos hcovered, if_pos hcovered]
    rfl
  · rw [if_neg hcovered, if_neg hcovered]
    rfl

/-- `(build allocator code size).outcome = .ok ⟨bytes, code.length⟩`: with memory there is an image,
whether the start address covers some of the code or not. -/
theorem build_of_grants {bytes : Bytes} (hcode : code.length ≤ size) (hsize : minimumSize ≤ size)
    (h : allocator.grants size = true)
    (hbytes : Word.put? (padded code size) resetVector startAddress = some bytes) :
    (build allocator code size).outcome = .ok ⟨bytes, code.length⟩ := by
  rw [build_eq_of_grants hcode hsize h hbytes]

/-- **There is an image around code exactly if the size has room for the code and for the reset
vector and gets memory.** -/
theorem build_eq_ok_iff : (build allocator code size).outcome = .ok image ↔
    code.length ≤ size ∧ minimumSize ≤ size ∧ allocator.grants size = true ∧
      Word.put? (padded code size) resetVector startAddress = some image.bytes ∧
      image.codeLength = code.length := by
  constructor
  · intro h
    by_cases hcode : size < code.length
    · rw [build_of_lt_length allocator hcode] at h
      exact absurd h (by simp)
    have hcode' : code.length ≤ size := Nat.le_of_not_lt hcode
    by_cases hsize : size < minimumSize
    · rw [build_of_lt_minimumSize allocator hcode' hsize] at h
      exact absurd h (by simp)
    have hsize' : minimumSize ≤ size := Nat.le_of_not_lt hsize
    rcases hgrants : allocator.grants size with _ | _
    · rw [build_of_not_grants hcode' hsize' hgrants] at h
      exact absurd h (by simp)
    · obtain ⟨bytes, hbytes⟩ := exists_put?_padded hcode' hsize'
      rw [build_of_grants hcode' hsize' hgrants hbytes] at h
      obtain rfl := Except.ok.inj h
      exact ⟨hcode', hsize', rfl, hbytes, rfl⟩
  · rintro ⟨hcode, hsize, hgrants, hbytes, hlength⟩
    rw [build_of_grants hcode hsize hgrants hbytes, ← hlength]

/-! ## Building around an image -/

/-- `image.bytes.length = size`: an image has the size that was asked for. -/
theorem length_bytes_of_build (h : (build allocator code size).outcome = .ok image) :
    image.bytes.length = size := by
  obtain ⟨hcode, -, -, hbytes, -⟩ := build_eq_ok_iff.mp h
  rw [Word.length_of_put? hbytes, length_padded hcode]

/-- **Around the bytes of an image the same image is built again, with more filler after it if it is
to be larger.** The start address is there already, and all of the bytes are code now. -/
theorem build_of_build {larger : Nat} (h : (build allocator code size).outcome = .ok image)
    (hle : size ≤ larger) (hgrants : allocator.grants larger = true) :
    (build allocator image.bytes larger).outcome =
      .ok ⟨image.bytes ++ List.replicate (larger - size) filler, size⟩ := by
  have hlength := length_bytes_of_build h
  obtain ⟨-, hsize, -, hbytes, -⟩ := build_eq_ok_iff.mp h
  have hpadded : padded image.bytes larger =
      image.bytes ++ List.replicate (larger - size) filler := by
    rw [padded, hlength]
  have hput := Word.put?_append_of_put? hbytes (List.replicate (larger - size) filler)
  rw [← hpadded] at hput ⊢
  rw [build_of_grants (by omega) (by omega) hgrants hput, hlength]

end RomCompiler.Image
