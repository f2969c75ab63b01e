import RomCompiler.Image.Build

/-! # Writing an image to a device

A device takes as much of what it is offered as it likes, as long as it has room, and is offered
the rest again until it has everything or takes nothing.
- **`Device`** — a device with a capacity and an appetite of its own.
- **`Device.write`** — the bytes that a device ends up with, and whether those were all.
- **`Image.writeTo`** — writing the content of an image. -/

namespace RomCompiler

/-- **A device that holds a number of bytes in all.** -/
structure Device where
  /-- How many bytes it can hold. -/
  capacity : Nat
  /-- How many of the bytes that it is offered it takes, when it holds `held` bytes already. -/
  takes : (held offered : Nat) → Nat
  /-- It takes no more than it is offered. -/
  takes_le_offered : ∀ held offered, takes held offered ≤ offered
  /-- It takes no more than it has room for. -/
  takes_le_room : ∀ held offered, takes held offered ≤ capacity - held
  /-- As long as it has room it takes something of any offer. -/
  takes_pos : ∀ held offered, held < capacity → 0 < offered → 0 < takes held offered

namespace Device

/-- The device that takes as much as it has room for, up to its `capacity`. -/
def eager (capacity : Nat) : Device where
  capacity := capacity
  takes held offered := min offered (capacity - held)
  takes_le_offered _ _ := Nat.min_le_left ..
  takes_le_room _ _ := Nat.min_le_right ..
  takes_pos _ _ hroom hoffered := by omega

/-- Why a device does not have all the bytes. -/
inductive Fault where
  /-- The device took nothing of an offer. -/
  | writeZero
  deriving DecidableEq, Repr

/-- A fault in words. -/
def Fault.message : Fault → String
  | .writeZero => "failed to write whole buffer"

/-- **Offers `bytes` to a device that holds `held`, and offers the rest again as long as it takes
something**: all that the device holds in the end, and whether it took everything. -/
def write (device : Device) (held bytes : Bytes) : Bytes × Except Fault Unit :=
  if bytes = [] then (held, .ok ())
  else
    let taken := device.takes held.length bytes.length
    if taken = 0 then (held, .error .writeZero)
    else device.write (held ++ bytes.take taken) (bytes.drop taken)
termination_by bytes.length
decreasing_by
  have hbytes : 0 < bytes.length := List.length_pos_iff.2 ‹_›
  have htaken : device.takes held.length bytes.length ≠ 0 := ‹_›
  rw [List.length_drop]
  omega

end Device

/-- `image.writeTo device`: writes the content of an image to an empty device. -/
def Image.writeTo (image : Image) (device : Device) : Bytes × Except Device.Fault Unit :=
  device.write [] image.bytes

end RomCompiler
