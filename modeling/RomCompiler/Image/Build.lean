import RomCompiler.Image.Layout
import RomCompiler.Log

/-! # Building an image

An image is made of the code, of filler up to its size, and of the reset vector, which is written
last and over whatever is in its place.
- **`Image`** — the bytes of an image, with the length of the code that it was built around.
- **`Allocator`** — which sizes get memory.
- **`Image.Fault`** — why there is no image of a size around some code.
- **`Image.build`** — the image, with the records of its stages. -/

namespace RomCompiler

/-- **An image, ready to be saved**, as `Image.build` makes it. -/
structure Image where
  /-- The content of the image. -/
  bytes : Bytes
  /-- How many bytes of code lie at its start, with those that the reset vector has replaced. -/
  codeLength : Nat
  deriving DecidableEq, Repr

/-- Half of the addresses that a 64-bit word can hold, `2 ^ 63`; no allocator grants so much. -/
def halfAddressSpace : Nat := 0x8000000000000000

/-- **Which sizes get memory.** No machine has room for half of its address space, so no size from
there on ever does. -/
structure Allocator where
  /-- Whether there is memory for so many bytes. -/
  grants : Nat → Bool
  /-- There is none for half of the address space. -/
  grants_eq_false : ∀ size, halfAddressSpace ≤ size → grants size = false

/-- Grants every size that the 47-bit address space of a process has room for, `size < 2 ^ 47`. -/
def Allocator.addressSpace : Allocator where
  grants size := decide (size < 0x800000000000)
  grants_eq_false size h := by
    simp only [halfAddressSpace, decide_eq_false_iff_not] at h ⊢
    omega

namespace Image

/-- `image.size`: the number of bytes in an image. -/
def size (image : Image) : Nat := image.bytes.length

/-- Whether an image has no bytes. -/
def isEmpty (image : Image) : Bool := image.bytes.isEmpty

/-- **The address at which the processor starts**: the word at `resetVector`, if the image reaches
far enough to tell. -/
def startsAt? (image : Image) : Option UInt16 := Word.get? image.bytes resetVector

/-- **Why there is no image of a size around some code**, in the order in which `build` checks. -/
inductive Fault where
  /-- The code is longer than the image. -/
  | tooSmallForCode (size codeLength : Nat)
  /-- The reset vector, at `offset`, does not fit in the image. -/
  | tooSmallForVector (size offset : Nat)
  /-- There is no memory for the image. -/
  | noMemory (size : Nat)
  deriving DecidableEq, Repr

/-- A fault in words. -/
def Fault.message : Fault → String
  | .tooSmallForCode size codeLength =>
    "ROM size " ++ prefixedHex size ++ " is smaller than the " ++ prefixedHex codeLength ++
      " bytes of code"
  | .tooSmallForVector size offset =>
    "ROM size " ++ prefixedHex size ++ " can't hold the reset vector at " ++ prefixedHex offset ++
      " (need at least " ++ prefixedHex minimumSize ++ ")"
  | .noMemory size => "can't allocate a ROM of " ++ prefixedHex size ++ " bytes"

/-- `padded code size`: the code, and `filler` after it up to the size. -/
def padded (code : Bytes) (size : Nat) : Bytes :=
  code ++ List.replicate (size - code.length) filler

/-- `build allocator code size`: the image of the given size with the code at its start. -/
def build (allocator : Allocator) (code : Bytes) (size : Nat) : Logged Fault Image :=
  if size < code.length then .fail (.tooSmallForCode size code.length)
  else if size < minimumSize then .fail (.tooSmallForVector size resetVector)
  else do
    Logged.note (.building size code.length)
    if !allocator.grants size then .fail (.noMemory size)
    else do
      if resetVector < code.length then
        Logged.note (.vectorCovered resetVector resetVectorEnd)
      match Word.put? (padded code size) resetVector startAddress with
      | some bytes => return ⟨bytes, code.length⟩
      | none => .fail (.tooSmallForVector size resetVector)

/-- `(padded code size).length = size`: code that fits is padded to the whole size. -/
@[simp] theorem length_padded {code : Bytes} {size : Nat} (h : code.length ≤ size) :
    (padded code size).length = size := by
  simp only [padded, List.length_append, List.length_replicate]
  omega

end Image

end RomCompiler
