import RomCompiler.Terminal.Plain
import RomCompiler.Terminal.Style

/-! # What is left of a message without its controls

A message sets off the parts that it quotes by styles. Without terminal controls the styles are
gone, and a quoted part is shown alike wherever it stands: the end of its style also ends any
sequence that the part has left open, so nothing that comes after it is swallowed.
* **`Reading.foldl_next_after`** — what a text shows does not depend on what was shown before it.
* **`Reading.foldl_next_of_ground`** — in no sequence, a text shows its plain form.
* **`plain_of_forall_isShown`** — a text without controls is its own plain form.
* **`shown_append_mark`** — a part in a style is shown on its own, between what is around it. -/

namespace RomCompiler.Terminal

namespace Reading

/-- `reading.after front`: the same reading, after the characters `front` were shown, the last one
first. -/
def after (reading : Reading) (front : Text) : Reading :=
  { reading with shown := reading.shown ++ front }

/-- `(reading.after front).next c = (reading.next c).after front`: the next character is judged
without a look at what was shown before. -/
theorem next_after (reading : Reading) (front : Text) (c : Char) :
    (reading.after front).next c = (reading.next c).after front := by
  have hshows : (reading.after front).shows c = reading.shows c := rfl
  unfold next
  rw [hshows]
  split <;> rfl

/-- **What a text shows does not depend on what was shown before it**: the run of `next` carries
the earlier characters along. -/
theorem foldl_next_after (text : Text) (reading : Reading) (front : Text) :
    text.foldl next (reading.after front) = (text.foldl next reading).after front := by
  -- by induction on the text, over every reading that the characters so far can have led to
  induction text generalizing reading with
  | nil => rfl
  | cons c rest ih => rw [List.foldl_cons, next_after, ih, List.foldl_cons]

/-- `reading.next c = (({} : Reading).next c).after reading.shown`: in no sequence it makes no
difference whether the last character was shown. -/
theorem next_of_ground {reading : Reading} (h : reading.place = .ground) (c : Char) :
    reading.next c = (({} : Reading).next c).after reading.shown := by
  obtain ⟨place, showing, shown⟩ := reading
  obtain rfl : place = .ground := h
  have hshows : ∀ shown, Reading.shows ⟨.ground, showing, shown⟩ c = isShown c := by
    intro shown
    cases showing <;> rfl
  have hstart : ({} : Reading).shows c = isShown c := rfl
  unfold next
  rw [hshows, hstart]
  split <;> rfl

/-- **In no sequence a text shows its plain form**, in front of which stands what was shown
before. -/
theorem foldl_next_of_ground {reading : Reading} (h : reading.place = .ground) (text : Text) :
    (text.foldl next reading).shown = (plain text).reverse ++ reading.shown := by
  rcases text with _ | ⟨c, rest⟩
  · rfl
  · rw [List.foldl_cons, next_of_ground h, foldl_next_after, plain, List.reverse_reverse]
    rfl

/-- An escape is never shown, and it begins a sequence of its own wherever it stands. -/
theorem next_escape (reading : Reading) :
    reading.next '\x1b' = { place := .escape, showing := false, shown := reading.shown } := by
  obtain ⟨place, showing, shown⟩ := reading
  cases place <;> cases showing <;> rfl

end Reading

/-! ## Plain forms put together -/

/-- `plain (front ++ rest) = front ++ plain rest` for characters `front` that are all shown: they
open no sequence. -/
theorem plain_append_of_forall_isShown {front : Text} (h : ∀ c ∈ front, isShown c)
    (rest : Text) : plain (front ++ rest) = front ++ plain rest := by
  induction front with
  | nil => rfl
  | cons c front ih =>
    have hc : isShown c = true := h c List.mem_cons_self
    have hnext : ({} : Reading).next c = ⟨.ground, true, [c]⟩ := by
      have hshows : ({} : Reading).shows c = isShown c := rfl
      simp [Reading.next, hshows, hc]
    have hfront : ∀ d ∈ front, isShown d := fun d hd => h d (List.mem_cons_of_mem c hd)
    rw [List.cons_append, plain, List.foldl_cons, hnext, Reading.foldl_next_of_ground rfl,
      ih hfront]
    simp

/-- **A text without controls is its own plain form**: `plain text = text` where every character is
shown. -/
theorem plain_of_forall_isShown {text : Text} (h : ∀ c ∈ text, isShown c) : plain text = text := by
  have happend := plain_append_of_forall_isShown h []
  rw [List.append_nil] at happend
  rw [happend]
  exact List.append_nil text

/-- The end of a style ends all sequences, and nothing of it is shown. -/
theorem foldl_next_reset (reading : Reading) :
    "\x1b[0m".toList.foldl Reading.next reading = ⟨.ground, false, reading.shown⟩ := by
  show ['[', '0', 'm'].foldl Reading.next (reading.next '\x1b') = _
  rw [Reading.next_escape]
  rfl

/-- The start of a style does the same. -/
theorem foldl_next_start (style : Style) (reading : Reading) :
    ("\x1b[" ++ style.number ++ "m").toList.foldl Reading.next reading =
      ⟨.ground, false, reading.shown⟩ := by
  cases style with
  | faulty =>
    show ['[', '3', '3', 'm'].foldl Reading.next (reading.next '\x1b') = _
    rw [Reading.next_escape]
    rfl
  | literal =>
    show ['[', '1', 'm'].foldl Reading.next (reading.next '\x1b') = _
    rw [Reading.next_escape]
    rfl

/-! ## Messages -/

/-- `shown message`: what is shown of a message, `plain` on strings. -/
def shown (message : String) : String := String.ofList (plain message.toList)

/-- `IsPlain message`: there are no controls in the message. -/
def IsPlain (message : String) : Prop := message.toList.all isShown = true

instance (message : String) : Decidable (IsPlain message) := inferInstanceAs (Decidable (_ = _))

/-- `IsPlain (front ++ rest) ↔ IsPlain front ∧ IsPlain rest`: a message put together from two is
plain if both are. -/
@[simp] theorem isPlain_append {front rest : String} :
    IsPlain (front ++ rest) ↔ IsPlain front ∧ IsPlain rest := by
  simp [IsPlain]

/-- `shown (front ++ rest) = front ++ shown rest` for a plain `front`. -/
theorem shown_append {front : String} (h : IsPlain front) (rest : String) :
    shown (front ++ rest) = front ++ shown rest := by
  rw [shown, String.toList_append, plain_append_of_forall_isShown (List.all_eq_true.mp h),
    String.ofList_append, String.ofList_toList, ← shown]

/-- `shown message = message` for a plain message. -/
theorem shown_of_isPlain {message : String} (h : IsPlain message) : shown message = message := by
  rw [shown, plain_of_forall_isShown (List.all_eq_true.mp h), String.ofList_toList]

/-- **A part in a style is shown on its own.** The style is not shown, whatever comes in front of
it, and a sequence that the part leaves open swallows nothing of what comes after it. -/
theorem shown_append_mark (front : String) (style : Style) (part rest : String) :
    shown (front ++ style.mark part ++ rest) = shown front ++ shown part ++ shown rest := by
  have hlist : (front ++ style.mark part ++ rest).toList = front.toList ++
      (("\x1b[" ++ style.number ++ "m").toList ++ (part.toList ++
        ("\x1b[0m".toList ++ rest.toList))) := by
    simp only [Style.mark, String.toList_append, List.append_assoc]
  -- after the start of the style the part is read in no sequence, whatever `front` has opened
  have hpart := @Reading.foldl_next_of_ground
    ⟨.ground, false, (front.toList.foldl Reading.next {}).shown⟩ rfl part.toList
  have hplain : plain (front ++ style.mark part ++ rest).toList =
      plain front.toList ++ plain part.toList ++ plain rest.toList := by
    rw [hlist, plain, List.foldl_append, List.foldl_append, foldl_next_start, List.foldl_append,
      List.foldl_append, foldl_next_reset, Reading.foldl_next_of_ground rfl, hpart]
    simp only [List.reverse_append, List.reverse_reverse]
    rfl
  rw [shown, hplain, String.ofList_append, String.ofList_append, ← shown, ← shown, ← shown]

end RomCompiler.Terminal
