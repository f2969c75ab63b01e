import RomCompiler.Word

/-! # Memory at 64-bit offsets

The words of a memory are read and written at offsets of 64 bits. Where a word ends is a sum that is
checked, so a word near the last offset of all is out of range and does not come round to the first.
- **`Memory`** — bytes whose number is an offset too.
- **`Memory.wordEnd?`**, **`Memory.hasWord`** — the offset after a word, and whether the memory
  reaches that far.
- **`Memory.get?`**, **`Memory.put?`** — the word at an offset, and the memory with a word there;
  **`Memory.set`** — the memory with a byte in a place.
- **`Memory.Access`**, **`Memory.Answer`** — one access, and what it is answered.
- **`Memory.run`**, **`Memory.after`** — accesses one after the other, and the memory after them. -/

namespace RomCompiler

/-- How many offsets there are, `2 ^ 64`. -/
def offsetCount : Nat := 0x10000000000000000

/-- **A memory: bytes that each have an offset, and one more offset after them.** -/
@[ext] structure Memory where
  /-- The content of the memory. -/
  bytes : Bytes
  /-- The number of bytes is an offset. -/
  length_lt : bytes.length < offsetCount
  deriving DecidableEq, Repr

namespace Memory

/-- The offset after the word at `offset`, unless the sum overflows. -/
def wordEnd? (offset : BitVec 64) : Option (BitVec 64) :=
  if offset.uaddOverflow 2 then none else some (offset + 2)

/-- `memory.hasWord offset`: whether both bytes of the word at `offset` are in the memory. -/
def hasWord (memory : Memory) (offset : BitVec 64) : Bool :=
  (wordEnd? offset).any fun stop => stop.toNat ≤ memory.bytes.length

/-- `memory.get? offset`: the word at `offset`, if the memory has one there. -/
def get? (memory : Memory) (offset : BitVec 64) : Option UInt16 :=
  if memory.hasWord offset then Word.get? memory.bytes offset.toNat else none

/-- `memory.set i byte`: the memory with `byte` in place `i`. -/
def set (memory : Memory) (i : Nat) (byte : UInt8) : Memory where
  bytes := memory.bytes.set i byte
  length_lt := by
    rw [List.length_set]
    exact memory.length_lt

/-- `(memory.set i byte).bytes = memory.bytes.set i byte`: the bytes of a memory with another byte
in one place. -/
@[simp] theorem bytes_set (memory : Memory) (i : Nat) (byte : UInt8) :
    (memory.set i byte).bytes = memory.bytes.set i byte := rfl

/-- `memory.put? offset word`: the memory with `word` written at `offset`, if the memory has a word
there. -/
def put? (memory : Memory) (offset : BitVec 64) (word : UInt16) : Option Memory :=
  if memory.hasWord offset then
    some ((memory.set offset.toNat (Word.low word)).set (offset.toNat + 1) (Word.high word))
  else none

/-- **One access to a memory.** -/
inductive Access where
  /-- The word at an offset is read. -/
  | get (offset : BitVec 64)
  /-- A word is written at an offset. -/
  | put (offset : BitVec 64) (word : UInt16)
  deriving DecidableEq, Repr

/-- The offset of the word that is accessed. -/
def Access.offset : Access → BitVec 64
  | .get offset => offset
  | .put offset _ => offset

/-- `(Access.get offset).offset = offset`: a reading access has the offset that it reads at. -/
@[simp] theorem Access.offset_get (offset : BitVec 64) : (Access.get offset).offset = offset := rfl

/-- `(Access.put offset word).offset = offset`: a writing access has the offset that it writes at.
-/
@[simp] theorem Access.offset_put (offset : BitVec 64) (word : UInt16) :
    (Access.put offset word).offset = offset := rfl

/-- **What an access is answered**: a word, that one was written, or `outOfRange`. -/
inductive Answer where
  /-- This word was read. -/
  | read (word : UInt16)
  /-- The word was written. -/
  | written
  /-- The memory has no word at the offset. -/
  | outOfRange
  deriving DecidableEq, Repr

/-- `access.run memory`: the answer to an access, and the memory after it. -/
def Access.run (access : Access) (memory : Memory) : Answer × Memory :=
  match access with
  | .get offset =>
    match memory.get? offset with
    | some word => (.read word, memory)
    | none => (.outOfRange, memory)
  | .put offset word =>
    match memory.put? offset word with
    | some after => (.written, after)
    | none => (.outOfRange, memory)

/-- `memory.run accesses`: the answers to accesses one after the other, each with the memory after
it. -/
def run (memory : Memory) : List Access → List (Answer × Memory)
  | [] => []
  | access :: rest =>
    let answered := access.run memory
    answered :: run answered.2 rest

/-- `memory.after accesses`: the memory after accesses. -/
def after (memory : Memory) (accesses : List Access) : Memory :=
  accesses.foldl (fun memory access => (access.run memory).2) memory

end Memory

end RomCompiler
