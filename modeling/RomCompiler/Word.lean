import RomCompiler.Bytes

/-! # Words in byte memory

A word takes two bytes, the low one at its offset and the high one right after it.
- **`Word.low`**, **`Word.high`**, **`Word.join`** — the two bytes of a word, and the word of two
  bytes.
- **`Word.get?`** — the word at an offset, if both of its bytes are there.
- **`Word.put?`** — the memory with a word written at an offset, if both bytes are there. -/

namespace RomCompiler.Word

/-- `low word`: the low byte of a word. -/
def low (word : UInt16) : UInt8 := word.toUInt8

/-- `high word`: the high byte of a word. -/
def high (word : UInt16) : UInt8 := (word >>> 8).toUInt8

/-- `join low high`: the word with the given low and high byte. -/
def join (low high : UInt8) : UInt16 := low.toUInt16 ||| (high.toUInt16 <<< 8)

/-- `get? memory offset`: the word at `offset`, if the memory reaches past both of its bytes. -/
def get? (memory : Bytes) (offset : Nat) : Option UInt16 := do
  let low ← memory[offset]?
  let high ← memory[offset + 1]?
  return join low high

/-- `put? memory offset word`: the memory with `word` written at `offset`, if it reaches past both
bytes. -/
def put? (memory : Bytes) (offset : Nat) (word : UInt16) : Option Bytes :=
  if offset + 2 ≤ memory.length then
    some ((memory.set offset (low word)).set (offset + 1) (high word))
  else none

/-- `after.length = memory.length`: writing keeps the length of the memory. -/
theorem length_of_put? {memory after : Bytes} {offset : Nat} {word : UInt16}
    (h : put? memory offset word = some after) : after.length = memory.length := by
  unfold put? at h
  split at h
  · obtain rfl := Option.some.inj h
    simp
  · simp at h

end RomCompiler.Word
