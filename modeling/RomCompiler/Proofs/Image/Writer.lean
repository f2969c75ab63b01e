import RomCompiler.Image.Writer

/-! # What a device receives of an image

However a device cuts what it is offered, it receives the bytes of an image in order and each of
them once, until it has all of them or is full.
* **`Device.Receives`** — the calls of a write to any writer with a capacity, which is free to take
  another part of each offer; **`Device.receives_write`** — what a device does is one such write.
* **`Device.Receives.eq`** — all such writes end alike, whatever parts were taken.
* **`Image.writeTo_eq_take`** — the bytes that a device has received of an image, and when those
  were all. -/

namespace RomCompiler

namespace Device

/-- **A write to a writer that holds at most `capacity` bytes**: it holds `held` and is offered
`bytes`, and `result` is what it holds in the end, and whether those were all. At each call the
writer takes any part of the offer that is not empty and for which it has room; only when it is full
it takes nothing. -/
inductive Receives (capacity : Nat) : (held bytes : Bytes) → Bytes × Except Fault Unit → Prop
  /-- Nothing is left to offer. -/
  | all (held : Bytes) : Receives capacity held [] (held, .ok ())
  /-- The writer is full and takes nothing of an offer. -/
  | full {held bytes : Bytes} (hbytes : bytes ≠ []) (hfull : capacity ≤ held.length) :
      Receives capacity held bytes (held, .error .writeZero)
  /-- The writer takes the front of an offer, and is offered the rest. -/
  | part {held front back : Bytes} {result : Bytes × Except Fault Unit} (hfront : front ≠ [])
      (hroom : held.length + front.length ≤ capacity)
      (rest : Receives capacity (held ++ front) back result) :
      Receives capacity held (front ++ back) result

/-- **A device takes its parts of the offers as a writer of its capacity may**:
`Receives device.capacity held bytes (device.write held bytes)`. -/
theorem receives_write (device : Device) (held bytes : Bytes) :
    Receives device.capacity held bytes (device.write held bytes) := by
  fun_induction device.write held bytes with
  | case1 held => exact .all held
  | case2 held bytes hbytes taken htaken =>
    -- with room left the device would have taken something
    refine .full hbytes (Nat.le_of_not_lt fun hroom => ?_)
    have hpos := device.takes_pos held.length bytes.length hroom (List.length_pos_iff.mpr hbytes)
    omega
  | case3 held bytes hbytes taken htaken ih =>
    have hoffered : taken ≤ bytes.length := device.takes_le_offered held.length bytes.length
    have hroom : taken ≤ device.capacity - held.length :=
      device.takes_le_room held.length bytes.length
    have hlength : (bytes.take taken).length = taken := List.length_take_of_le hoffered
    have hpart := Receives.part (List.ne_nil_of_length_pos (by omega)) (by omega) ih
    rwa [List.take_append_drop] at hpart

/-- **A write ends with as much of the bytes as the writer has room for, taken from their front, and
fails if those were not all.** -/
theorem Receives.eq {capacity : Nat} {held bytes : Bytes} {result : Bytes × Except Fault Unit}
    (h : Receives capacity held bytes result) (hheld : held.length ≤ capacity) :
    result = (held ++ bytes.take (capacity - held.length),
      if held.length + bytes.length ≤ capacity then .ok () else .error .writeZero) := by
  induction h with
  | all held => simp [hheld]
  | @full held bytes hbytes hfull =>
    have hpos : 0 < bytes.length := List.length_pos_iff.mpr hbytes
    rw [Nat.sub_eq_zero_of_le hfull, List.take_zero, List.append_nil, if_neg (by omega)]
  | @part held front back result _ hroom _ ih =>
    rw [List.length_append] at ih
    have hfront : front.take (capacity - held.length) = front :=
      List.take_of_length_le (by omega)
    -- the writer becomes full in what it is offered next, if at all
    rw [ih hroom, List.take_append, hfront, Nat.sub_sub, List.append_assoc, List.length_append,
      Nat.add_assoc]

end Device

/-- **An image is written in order and without repetition**: the device receives
`image.bytes.take device.capacity`. The write succeeds if those are all bytes, so also when the
device is full with the last of them, and fails with nothing taken of an offer if they are not. It
ends so for any writer of this capacity, whatever parts of the offers it `Receives`, and no other
way. -/
theorem Image.writeTo_eq_take (image : Image) (device : Device) :
    image.writeTo device = (image.bytes.take device.capacity,
      if image.size ≤ device.capacity then .ok () else .error .writeZero) ∧
    (image.writeTo device).1.length = min device.capacity image.size ∧
    ((image.writeTo device).2 = .ok () ↔ image.size ≤ device.capacity) ∧
    ∀ result, Device.Receives device.capacity [] image.bytes result ↔
      result = image.writeTo device := by
  have hend : ∀ result, Device.Receives device.capacity [] image.bytes result →
      result = (image.bytes.take device.capacity,
        if image.size ≤ device.capacity then .ok () else .error .writeZero) := by
    intro result h
    have heq := h.eq (Nat.zero_le _)
    rwa [List.nil_append, List.length_nil, Nat.sub_zero, Nat.zero_add] at heq
  have hdevice : Device.Receives device.capacity [] image.bytes (image.writeTo device) :=
    device.receives_write [] image.bytes
  have heq := hend _ hdevice
  refine ⟨heq, ?_, ?_, ?_⟩
  · rw [heq, List.length_take, Image.size]
  · rw [heq]
    by_cases hle : image.size ≤ device.capacity <;> simp [hle]
  · intro result
    constructor
    · intro h
      rw [hend result h, heq]
    · rintro rfl
      exact hdevice

end RomCompiler
