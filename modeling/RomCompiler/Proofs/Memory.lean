import Mathlib.Data.List.Induction
import RomCompiler.Memory
import RomCompiler.Proofs.Word

/-! # What is in a memory after accesses

A memory has a word at an offset exactly if its bytes reach past both bytes of the word, also where
the offset is near the last one of all. Each byte is the one that was last written at its place, low
and high bytes of words apart, and a word that is read is made up of two such bytes.
* **`Memory.hasWord_iff`** — which words a memory has; **`Memory.get?_eq`**,
  **`Memory.put?_eq_some_iff`** — they are the words at the numbers of their offsets.
* **`Memory.Access.run_cases`** — the three ends of an access.
* **`Memory.Access.Writes`**, **`Memory.LastByte`** — the bytes that an access writes, and the byte
  of a place after a history of accesses.
* **`Memory.Access.getElem?_run`**, **`Memory.getElem?_after`** — the bytes after one access, and
  after a history of them.
* **`Memory.run_eq_lastByte`** — every answer and every memory of a run. -/

namespace RomCompiler.Memory

variable {memory after : Memory} {access : Access} {history : List Access} {offset : BitVec 64}
  {word : UInt16} {byte : UInt8} {i length : Nat} {initial : Bytes}

/-! ## Offsets and their numbers -/

/-- `wordEnd? offset = some stop ↔ stop.toNat = offset.toNat + 2`: a word ends two places after its
offset, if that place is an offset. -/
theorem wordEnd?_eq_some_iff {stop : BitVec 64} :
    wordEnd? offset = some stop ↔ stop.toNat = offset.toNat + 2 := by
  have hover : offset.uaddOverflow 2 = true ↔ 2 ^ 64 ≤ offset.toNat + 2 := decide_eq_true_iff
  rw [wordEnd?]
  by_cases hlt : offset.toNat + 2 < 2 ^ 64
  · have hsum : (offset + 2).toNat = offset.toNat + 2 := Nat.mod_eq_of_lt hlt
    rw [if_neg (mt hover.mp (Nat.not_le.mpr hlt)), Option.some_inj, ← hsum, BitVec.toNat_inj,
      eq_comm]
  · have hstop : stop.toNat < 2 ^ 64 := stop.isLt
    rw [if_pos (hover.mpr (Nat.le_of_not_lt hlt))]
    constructor
    · exact fun h => absurd h (by simp)
    · intro h
      omega

/-- **A memory has the words that end within its bytes.** -/
theorem hasWord_iff : memory.hasWord offset = true ↔ offset.toNat + 2 ≤ memory.bytes.length := by
  rw [hasWord, Option.any_eq_true]
  simp only [wordEnd?_eq_some_iff, decide_eq_true_iff]
  constructor
  · rintro ⟨stop, hstop, hle⟩
    rwa [← hstop]
  · -- there is an offset for every end within the bytes
    intro hle
    have hlt : offset.toNat + 2 < 2 ^ 64 := Nat.lt_of_le_of_lt hle memory.length_lt
    have hstop : (BitVec.ofNat 64 (offset.toNat + 2)).toNat = offset.toNat + 2 :=
      Nat.mod_eq_of_lt hlt
    exact ⟨_, hstop, by rwa [hstop]⟩

/-- **The word at an offset is the one at its number**:
`memory.get? offset = Word.get? memory.bytes offset.toNat`. -/
theorem get?_eq (memory : Memory) (offset : BitVec 64) :
    memory.get? offset = Word.get? memory.bytes offset.toNat := by
  rw [get?]
  split
  · rfl
  · next hword =>
    rw [hasWord_iff, ← Word.exists_get?_iff] at hword
    exact (Option.eq_none_iff_forall_ne_some.mpr fun word h => hword ⟨word, h⟩).symm

/-- **A word is written at an offset as it is at its number.** -/
theorem put?_eq_some_iff : memory.put? offset word = some after ↔
    Word.put? memory.bytes offset.toNat word = some after.bytes := by
  rw [put?, Word.put?_eq_some_iff, ← hasWord_iff]
  split
  · next hword =>
    rw [Option.some_inj, Memory.ext_iff, eq_comm]
    simp [hword]
  · next hword => simp [hword]

/-! ## One access -/

/-- **An access finds no word at its offset and changes nothing, or it reads a word and changes
nothing, or it writes a word.** -/
theorem Access.run_cases (access : Access) (memory : Memory) :
    (memory.bytes.length < access.offset.toNat + 2 ∧ access.run memory = (.outOfRange, memory)) ∨
    (∃ offset word, access = .get offset ∧ offset.toNat + 2 ≤ memory.bytes.length ∧
      Word.get? memory.bytes offset.toNat = some word ∧
      access.run memory = (.read word, memory)) ∨
    ∃ offset word after, access = .put offset word ∧ offset.toNat + 2 ≤ memory.bytes.length ∧
      Word.put? memory.bytes offset.toNat word = some after.bytes ∧
      access.run memory = (.written, after) := by
  by_cases hfits : access.offset.toNat + 2 ≤ memory.bytes.length
  · right
    rcases access with offset | ⟨offset, word⟩
    · rw [Access.offset_get] at hfits
      obtain ⟨word, hget⟩ := Word.exists_get?_iff.mpr hfits
      refine .inl ⟨offset, word, rfl, hfits, hget, ?_⟩
      rw [run, get?_eq, hget]
    · have hput : memory.put? offset word = some _ := if_pos (hasWord_iff.mpr hfits)
      refine .inr ⟨offset, word, _, rfl, hfits, put?_eq_some_iff.mp hput, ?_⟩
      rw [run, hput]
  · left
    refine ⟨Nat.lt_of_not_le hfits, ?_⟩
    rw [← hasWord_iff] at hfits
    rcases access with offset | ⟨offset, word⟩
    · have hget : memory.get? offset = none := if_neg hfits
      rw [run, hget]
    · have hput : memory.put? offset word = none := if_neg hfits
      rw [run, hput]

/-- An access is answered with a word, or has written one, if the memory has a word at its
offset. -/
theorem Access.run_ne_outOfRange_iff (access : Access) (memory : Memory) :
    (access.run memory).1 ≠ .outOfRange ↔
      access.offset.toNat + 2 ≤ memory.bytes.length := by
  rcases access.run_cases memory with ⟨hlt, hrun⟩ | ⟨offset, word, rfl, hfits, -, hrun⟩ |
    ⟨offset, word, after, rfl, hfits, -, hrun⟩
  · simpa [hrun] using hlt
  · simpa [hrun] using hfits
  · simpa [hrun] using hfits

/-- `(access.run memory).2.bytes.length = memory.bytes.length`: an access keeps the number of bytes.
-/
theorem Access.length_run (access : Access) (memory : Memory) :
    (access.run memory).2.bytes.length = memory.bytes.length := by
  rcases access.run_cases memory with ⟨-, hrun⟩ | ⟨_, _, -, -, -, hrun⟩ |
    ⟨_, _, _, -, -, hput, hrun⟩
  · rw [hrun]
  · rw [hrun]
  · rw [hrun]
    exact Word.length_of_put? hput

/-! ## The bytes that accesses write -/

/-- **An access writes a byte in place `i` of a memory of the given length**: it is a word that fits
in the memory, and the byte is its low one in the place of its offset, or its high one after it. -/
inductive Access.Writes (length : Nat) : Access → Nat → UInt8 → Prop
  /-- The low byte is what is left of the word modulo 256. -/
  | low {offset : BitVec 64} {word : UInt16} {byte : UInt8} (hfits : offset.toNat + 2 ≤ length)
      (hbyte : byte.toNat = word.toNat % 256) : Writes length (.put offset word) offset.toNat byte
  /-- The high byte is how many times 256 goes into the word. -/
  | high {offset : BitVec 64} {word : UInt16} {byte : UInt8} (hfits : offset.toNat + 2 ≤ length)
      (hbyte : byte.toNat = word.toNat / 256) :
      Writes length (.put offset word) (offset.toNat + 1) byte

/-- `access.Spares length i`: an access writes no byte in place `i` of a memory of this length. -/
def Access.Spares (length : Nat) (access : Access) (i : Nat) : Prop :=
  ∀ byte, ¬ access.Writes length i byte

/-- **The byte in place `i` after a history of accesses**: the one that was last written there, or
the one of `initial` if none was. -/
inductive LastByte (initial : Bytes) (history : List Access) (i : Nat) (byte : UInt8) : Prop
  /-- No access has written in this place. -/
  | initial (hbyte : initial[i]? = some byte)
      (hspares : ∀ access ∈ history, access.Spares initial.length i)
  /-- An access has written the byte, and no later one has written in this place. -/
  | written {earlier later : List Access} {access : Access}
      (hhistory : history = earlier ++ access :: later)
      (hwrites : access.Writes initial.length i byte)
      (hspares : ∀ access ∈ later, access.Spares initial.length i)

/-- `access.Spares length i`: a word that is out of range is not written. -/
theorem Access.spares_of_lt (h : length < access.offset.toNat + 2) (i : Nat) :
    access.Spares length i := by
  rintro byte (⟨hfits, -⟩ | ⟨hfits, -⟩)
  · exact absurd hfits (Nat.not_le.mpr h)
  · exact absurd hfits (Nat.not_le.mpr h)

/-- `(Access.get offset).Spares length i`: an access that reads writes nothing. -/
theorem Access.spares_get (offset : BitVec 64) (length i : Nat) :
    (Access.get offset).Spares length i := by
  rintro byte ⟨⟩

/-- A word that is in range is written with its two bytes. -/
theorem Access.writes_put_iff (hfits : offset.toNat + 2 ≤ length) :
    (Access.put offset word).Writes length i byte ↔
      i = offset.toNat ∧ byte = Word.low word ∨ i = offset.toNat + 1 ∧ byte = Word.high word := by
  rw [← UInt8.toNat_inj, ← UInt8.toNat_inj, Word.toNat_low, Word.toNat_high]
  constructor
  · rintro (⟨-, hbyte⟩ | ⟨-, hbyte⟩)
    · exact .inl ⟨rfl, hbyte⟩
    · exact .inr ⟨rfl, hbyte⟩
  · rintro (⟨rfl, hbyte⟩ | ⟨rfl, hbyte⟩)
    · exact .low hfits hbyte
    · exact .high hfits hbyte

/-- **The byte of a place after an access is the one that the access writes there, or else the one
before.** -/
theorem Access.getElem?_run (access : Access) (memory : Memory) (i : Nat) (byte : UInt8) :
    (access.run memory).2.bytes[i]? = some byte ↔
      access.Writes memory.bytes.length i byte ∨
        access.Spares memory.bytes.length i ∧ memory.bytes[i]? = some byte := by
  rcases access.run_cases memory with ⟨hlt, hrun⟩ | ⟨offset, word, rfl, -, -, hrun⟩ |
    ⟨offset, word, after, rfl, hfits, hput, hrun⟩
  · have hspares := spares_of_lt hlt i
    simp [hrun, hspares, hspares byte]
  · have hspares := spares_get offset memory.bytes.length i
    simp [hrun, hspares, hspares byte]
  · rw [hrun, Word.getElem?_of_put? hput]
    simp only [Spares, writes_put_iff hfits]
    by_cases hlow : i = offset.toNat
    · simp [hlow, eq_comm]
    · by_cases hhigh : i = offset.toNat + 1
      · simp [hhigh, eq_comm]
      · simp [hlow, hhigh]

/-! ## Histories -/

/-- `LastByte initial [] i byte ↔ initial[i]? = some byte`: before any access each place has its
initial byte. -/
theorem lastByte_nil : LastByte initial [] i byte ↔ initial[i]? = some byte := by
  constructor
  · rintro (⟨hbyte, -⟩ | ⟨hhistory, -, -⟩)
    · exact hbyte
    · exact absurd hhistory (by simp)
  · intro hbyte
    exact .initial hbyte fun _ h => absurd h List.not_mem_nil

/-- The last byte of a place is the one that the last access writes there, or else the one of the
history before it. -/
theorem lastByte_concat : LastByte initial (history ++ [access]) i byte ↔
    access.Writes initial.length i byte ∨
      access.Spares initial.length i ∧ LastByte initial history i byte := by
  constructor
  · rintro (⟨hbyte, hspares⟩ | @⟨earlier, later, writer, hhistory, hwrites, hspares⟩)
    · obtain ⟨hhistory, hlast⟩ := List.forall_mem_append.mp hspares
      exact .inr ⟨hlast access (List.mem_singleton_self _), .initial hbyte hhistory⟩
    · -- the access that wrote the byte is the last one, or one of the history
      rcases List.eq_nil_or_concat later with rfl | ⟨later, last, rfl⟩
      · obtain ⟨-, hlast⟩ := List.append_inj' hhistory rfl
        rw [(List.cons.inj hlast).1]
        exact .inl hwrites
      · rw [List.concat_eq_append, ← List.cons_append, ← List.append_assoc] at hhistory
        rw [List.concat_eq_append] at hspares
        obtain ⟨hhistory, hlast⟩ := List.append_inj' hhistory rfl
        obtain ⟨hlater, hspares⟩ := List.forall_mem_append.mp hspares
        rw [(List.cons.inj hlast).1]
        exact .inr ⟨hspares last (List.mem_singleton_self _), .written hhistory hwrites hlater⟩
  · rintro (hwrites | ⟨hspares, ⟨hbyte, hhistory⟩ | ⟨rfl, hwrites, hlater⟩⟩)
    · exact .written rfl hwrites fun _ h => absurd h List.not_mem_nil
    · exact .initial hbyte
        (List.forall_mem_append.mpr ⟨hhistory, List.forall_mem_singleton.mpr hspares⟩)
    · refine .written (List.append_assoc ..) hwrites ?_
      exact List.forall_mem_append.mpr ⟨hlater, List.forall_mem_singleton.mpr hspares⟩

/-- The last access acts on the memory that the others leave behind. -/
theorem after_concat (memory : Memory) (history : List Access) (access : Access) :
    memory.after (history ++ [access]) = (access.run (memory.after history)).2 := by
  rw [after, List.foldl_append]
  rfl

/-- `(memory.after history).bytes.length = memory.bytes.length`: accesses keep the number of bytes.
-/
theorem length_after (memory : Memory) (history : List Access) :
    (memory.after history).bytes.length = memory.bytes.length := by
  induction history using List.reverseRecOn with
  | nil => rfl
  | append_singleton history access ih => rw [after_concat, Access.length_run, ih]

/-- **After a history of accesses each place has its last byte.** -/
theorem getElem?_after (memory : Memory) (history : List Access) (i : Nat) (byte : UInt8) :
    (memory.after history).bytes[i]? = some byte ↔ LastByte memory.bytes history i byte := by
  induction history using List.reverseRecOn with
  | nil => exact lastByte_nil.symm
  | append_singleton history access ih =>
    rw [after_concat, Access.getElem?_run, length_after, ih, lastByte_concat]

/-- **Each access of a run acts on the memory that those before it leave behind.** -/
theorem getElem?_run (memory : Memory) (history : List Access) (access : Access)
    (later : List Access) : (memory.run (history ++ access :: later))[history.length]? =
      some (access.run (memory.after history)) := by
  induction history generalizing memory with
  | nil => rfl
  | cons first history ih => exact ih (first.run memory).2

/-- A word that is read after a history of accesses is made up of the last bytes of its two
places. -/
theorem exists_lastByte_of_get?
    (h : Word.get? (memory.after history).bytes offset.toNat = some word) :
    ∃ low high, LastByte memory.bytes history offset.toNat low ∧
      LastByte memory.bytes history (offset.toNat + 1) high ∧
      word.toNat = low.toNat + 256 * high.toNat := by
  obtain ⟨low, high, hlow, hhigh, hjoin⟩ := Word.get?_eq_some_iff.mp h
  refine ⟨low, high, (getElem?_after ..).mp hlow, (getElem?_after ..).mp hhigh, ?_⟩
  rw [← hjoin, Word.toNat_join]

/-- **A memory is told by its first bytes and by the words that are written to it, whatever accesses
come one after the other.** Its length stays, and after any history of them each place has its
`LastByte`, the one that was last written there, or its initial byte. In a run, the access after a
history succeeds exactly if the bytes reach past both bytes of its word; if it fails, the memory is
as before it. An access that reads changes nothing, and its word is `low + 256 * high` for the last
bytes of its two places. -/
theorem run_eq_lastByte (memory : Memory) :
    (∀ history, (memory.after history).bytes.length = memory.bytes.length ∧
      ∀ i byte, (memory.after history).bytes[i]? = some byte ↔
        LastByte memory.bytes history i byte) ∧
    ∀ history access later, ∃ answer,
      (memory.run (history ++ access :: later))[history.length]? =
        some (answer, memory.after (history ++ [access])) ∧
      (answer ≠ .outOfRange ↔ access.offset.toNat + 2 ≤ memory.bytes.length) ∧
      (answer = .outOfRange → memory.after (history ++ [access]) = memory.after history) ∧
      (∀ offset, access = .get offset →
        memory.after (history ++ [access]) = memory.after history ∧
        (answer ≠ .outOfRange → ∃ word low high, answer = .read word ∧
          LastByte memory.bytes history offset.toNat low ∧
          LastByte memory.bytes history (offset.toNat + 1) high ∧
          word.toNat = low.toNat + 256 * high.toNat)) ∧
      ∀ offset word, access = .put offset word → answer ≠ .outOfRange → answer = .written := by
  refine ⟨fun history => ⟨length_after memory history, getElem?_after memory history⟩, ?_⟩
  intro history access later
  have hsucceeds := access.run_ne_outOfRange_iff (memory.after history)
  rw [length_after] at hsucceeds
  refine ⟨(access.run (memory.after history)).1, ?_, hsucceeds, ?_⟩
  · rw [getElem?_run, after_concat]
  · rw [after_concat]
    rcases access.run_cases (memory.after history) with ⟨-, hrun⟩ |
      ⟨offset, word, rfl, -, hget, hrun⟩ | ⟨offset, word, after, rfl, -, -, hrun⟩
    · simp [hrun]
    · obtain ⟨low, high, hlow, hhigh, hword⟩ := exists_lastByte_of_get? hget
      rw [hrun]
      refine ⟨fun _ => rfl, ?_, ?_⟩
      · rintro _ ⟨⟩
        exact ⟨rfl, fun _ => ⟨word, low, high, rfl, hlow, hhigh, hword⟩⟩
      · rintro _ _ ⟨⟩
    · simp [hrun]

/-- A word that is written across another one takes one of its bytes, and no offset comes round. -/
example : ((Memory.mk [0xea, 0xea, 0xea] (by decide)).run
    [.put 0 0x1234, .put 1 0x5678, .put 2 0x9abc, .get 0, .get 0xffffffffffffffff]).map Prod.fst =
    [.written, .written, .outOfRange, .read 0x7834, .outOfRange] := by
  decide

end RomCompiler.Memory
