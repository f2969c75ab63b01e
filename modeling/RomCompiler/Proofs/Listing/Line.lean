import Mathlib.Data.List.DropRight
import RomCompiler.Listing.Line

/-! # The ends of lines

The two passes of the splitter come to one reading from left to right, in which a carriage return
with a line feed after it is one end, and any other of the two characters an end by itself.
* **`openLines`** — the lines of a text with the one after its last end, even if that is empty.
* **`Terminator`**, **`Parted`** — the three ends of a line, and two texts that do not share one.
* **`openLines_append_terminator`**, **`lineInduction`** — a text is a line, or a line with its end
  before a shorter text.
* **`endCount`**, **`lastLine`** — how many ends a text has, and what comes after the last one.
* **`openLines_append`** — the lines of two texts put together. -/

namespace RomCompiler.Listing

/-- `openLines text`: the lines of a text, and the one after its last end even if there is nothing
in it. -/
def openLines (text : Text) : List Text := (cutAtPairs text).flatMap (List.splitOnP isLineEnd)

/-- `NoEnds text`: a text has no character that ends a line. -/
def NoEnds (text : Text) : Prop := ∀ c ∈ text, isLineEnd c = false

/-- **The end of a line.** -/
inductive Terminator : Text → Prop
  /-- A line feed. -/
  | lineFeed : Terminator ['\n']
  /-- A carriage return and a line feed. -/
  | pair : Terminator ['\r', '\n']
  /-- A carriage return. -/
  | carriageReturn : Terminator ['\r']

/-- `Parted front back`: no end of a line lies across the border of two texts. -/
def Parted (front back : Text) : Prop :=
  ¬ (front.getLast? = some '\r' ∧ back.head? = some '\n')

instance (text : Text) : Decidable (NoEnds text) :=
  decidable_of_iff (text.all (!isLineEnd ·) = true) (by simp [NoEnds])

instance (front back : Text) : Decidable (Parted front back) :=
  inferInstanceAs (Decidable (¬ (front.getLast? = some '\r' ∧ back.head? = some '\n')))

/-- **How many lines of a text have ended.** A carriage return and a line feed end one line. -/
def endCount : Text → Nat
  | '\r' :: '\n' :: rest => endCount rest + 1
  | c :: rest => if isLineEnd c then endCount rest + 1 else endCount rest
  | [] => 0

/-- `lastLine text`: what comes after the last end of a line, which is the whole text if no line
ends. -/
def lastLine (text : Text) : Text := text.rtakeWhile (!isLineEnd ·)

/-! ## Texts without ends, and borders -/

/-- The empty text ends no line. -/
@[simp] theorem noEnds_nil : NoEnds [] := List.forall_mem_nil _

/-- `NoEnds (c :: text) ↔ isLineEnd c = false ∧ NoEnds text`: a text with one more character in
front ends no line if neither of the two does. -/
@[simp] theorem noEnds_cons {c : Char} {text : Text} :
    NoEnds (c :: text) ↔ isLineEnd c = false ∧ NoEnds text :=
  List.forall_mem_cons

/-- `NoEnds (text ++ other) ↔ NoEnds text ∧ NoEnds other`: a text ends no line if its parts don't.
-/
@[simp] theorem noEnds_append {text other : Text} :
    NoEnds (text ++ other) ↔ NoEnds text ∧ NoEnds other :=
  List.forall_mem_append

/-- `Parted front []`: there is no end across the end of all text. -/
@[simp] theorem parted_nil_right (front : Text) : Parted front [] := by
  simp [Parted]

/-- `front.getLast? = some '\r' ∧ ∃ rest, back = '\n' :: rest`: where two texts share an end of a
line, its halves are a carriage return and a line feed. -/
theorem eq_cons_of_not_parted {front back : Text} (h : ¬ Parted front back) :
    front.getLast? = some '\r' ∧ ∃ rest, back = '\n' :: rest := by
  obtain ⟨hfront, hback⟩ : front.getLast? = some '\r' ∧ back.head? = some '\n' := not_not.mp h
  exact ⟨hfront, _, List.eq_cons_of_mem_head? hback⟩

/-- What matters of the first text is its end. -/
theorem Parted.of_append {before front back : Text} (h : Parted (before ++ front) back) :
    Parted front back := by
  rintro ⟨hfront, hback⟩
  refine h ⟨?_, hback⟩
  rw [List.getLast?_append, hfront]
  rfl

/-- A text without ends has no half of an end either. -/
theorem NoEnds.parted {front : Text} (h : NoEnds front) (back : Text) : Parted front back := by
  rintro ⟨hfront, -⟩
  exact absurd (h '\r' (List.mem_of_getLast? hfront)) (by decide)

/-- `Parted terminator (rest ++ back)`: an end of a line stays one when more is put behind the lines
after it, unless it is cut. -/
theorem Parted.append_of_line {line terminator rest back : Text} (hrest : Parted terminator rest)
    (h : Parted (line ++ terminator ++ rest) back) : Parted terminator (rest ++ back) := by
  rcases rest with _ | ⟨c, rest⟩
  · rw [List.append_nil] at h
    exact h.of_append
  · exact hrest

/-- `Parted front middle`: a border stays one when more is put behind the second text. -/
theorem Parted.of_append_right {front middle back : Text} (h : Parted front (middle ++ back)) :
    Parted front middle := by
  rcases middle with _ | ⟨c, middle⟩
  · exact parted_nil_right front
  · exact h

/-! ## One character after the other -/

/-- `cutAtPairs text ≠ []`: there is always a piece between pairs. -/
theorem cutAtPairs_ne_nil (text : Text) : cutAtPairs text ≠ [] := by
  rcases text with _ | ⟨c, text⟩
  · simp
  · rw [cutAtPairs_cons]
    unfold cutAtPair
    split <;> simp

/-- `text.head? = some '\n'`: a piece that begins with a line feed is the start of a text that
begins with one. -/
theorem head?_of_cutAtPairs {text piece : Text} {pieces : List Text}
    (h : cutAtPairs text = ('\n' :: piece) :: pieces) : text.head? = some '\n' := by
  rcases text with _ | ⟨c, text⟩
  · simp at h
  · rw [cutAtPairs_cons] at h
    unfold cutAtPair at h
    split at h
    · simp at h
    · rw [(List.cons.inj (List.cons.inj h).1).1]
      rfl
    · rw [(List.cons.inj (List.cons.inj h).1).1]
      rfl

/-- `cutAtPairs ('\r' :: '\n' :: rest) = [] :: cutAtPairs rest`: a pair in front of a text is cut
out. -/
theorem cutAtPairs_pair (rest : Text) :
    cutAtPairs ('\r' :: '\n' :: rest) = [] :: cutAtPairs rest := by
  obtain ⟨piece, pieces, h⟩ := List.exists_cons_of_ne_nil (cutAtPairs_ne_nil rest)
  rw [cutAtPairs_cons, cutAtPairs_cons, h]
  rfl

/-- `cutAtPairs (c :: rest) = (cutAtPairs rest).modifyHead (c :: ·)`: a character that is not the
first half of a pair belongs to the first piece. -/
theorem cutAtPairs_cons_of_parted {c : Char} {rest : Text} (h : Parted [c] rest) :
    cutAtPairs (c :: rest) = (cutAtPairs rest).modifyHead (c :: ·) := by
  obtain ⟨piece, pieces, hrest⟩ := List.exists_cons_of_ne_nil (cutAtPairs_ne_nil rest)
  rw [cutAtPairs_cons, hrest]
  unfold cutAtPair
  split
  · -- a pair is cut out only where the rest begins with a line feed
    next heq => exact absurd ⟨rfl, head?_of_cutAtPairs (hrest.trans heq)⟩ h
  · next heq =>
    rw [heq]
    rfl
  · next heq => exact absurd heq (by simp)

/-- `openLines [] = [[]]`: the empty text has one line, which is open. -/
@[simp] theorem openLines_nil : openLines [] = [[]] := by
  simp [openLines]

/-- `openLines text ≠ []`: a text always has a line that is open. -/
theorem openLines_ne_nil (text : Text) : openLines text ≠ [] := by
  obtain ⟨piece, pieces, h⟩ := List.exists_cons_of_ne_nil (cutAtPairs_ne_nil text)
  rw [openLines, h, List.flatMap_cons]
  exact List.append_ne_nil_of_left_ne_nil (List.splitOnP_ne_nil _ _) _

/-- `openLines ('\r' :: '\n' :: rest) = [] :: openLines rest`: a carriage return and a line feed end
one line. -/
theorem openLines_pair (rest : Text) : openLines ('\r' :: '\n' :: rest) = [] :: openLines rest := by
  rw [openLines, cutAtPairs_pair, List.flatMap_cons, List.splitOnP_nil]
  rfl

/-- `openLines (c :: rest) = [] :: openLines rest`: a single carriage return or line feed ends a
line. -/
theorem openLines_end {c : Char} {rest : Text} (hc : isLineEnd c = true) (h : Parted [c] rest) :
    openLines (c :: rest) = [] :: openLines rest := by
  obtain ⟨piece, pieces, hrest⟩ := List.exists_cons_of_ne_nil (cutAtPairs_ne_nil rest)
  rw [openLines, openLines, cutAtPairs_cons_of_parted h, hrest, List.modifyHead_cons,
    List.flatMap_cons, List.flatMap_cons, List.splitOnP_cons_eq_if_modifyHead, if_pos hc]
  rfl

/-- `openLines (c :: rest) = (openLines rest).modifyHead (c :: ·)`: any other character belongs to
the first line. -/
theorem openLines_cons {c : Char} (hc : isLineEnd c = false) (rest : Text) :
    openLines (c :: rest) = (openLines rest).modifyHead (c :: ·) := by
  have h : Parted [c] rest := NoEnds.parted (by simpa using hc) rest
  obtain ⟨piece, pieces, hrest⟩ := List.exists_cons_of_ne_nil (cutAtPairs_ne_nil rest)
  obtain ⟨line, lines, hpiece⟩ :=
    List.exists_cons_of_ne_nil (List.splitOnP_ne_nil isLineEnd piece)
  rw [openLines, openLines, cutAtPairs_cons_of_parted h, hrest, List.modifyHead_cons,
    List.flatMap_cons, List.flatMap_cons, List.splitOnP_cons_eq_if_modifyHead,
    if_neg (by simp [hc]), hpiece]
  rfl

/-- `∃ lines, openLines (c :: rest) = [] :: lines`: the line before a single carriage return or line
feed is empty, whatever comes after it. -/
theorem exists_openLines_end {c : Char} (hc : isLineEnd c = true) (rest : Text) :
    ∃ lines, openLines (c :: rest) = [] :: lines := by
  by_cases h : Parted [c] rest
  · exact ⟨_, openLines_end hc h⟩
  · obtain ⟨hlast, back, rfl⟩ := eq_cons_of_not_parted h
    obtain rfl : c = '\r' := by simpa using hlast
    exact ⟨_, openLines_pair back⟩

/-! ## One line after the other -/

/-- A text without ends goes into the first line of what comes after it. -/
theorem openLines_append_of_noEnds {line : Text} (h : NoEnds line) (rest : Text) :
    openLines (line ++ rest) = (openLines rest).modifyHead (line ++ ·) := by
  obtain ⟨first, others, hrest⟩ := List.exists_cons_of_ne_nil (openLines_ne_nil rest)
  induction line with
  | nil =>
    rw [List.nil_append, hrest]
    rfl
  | cons c line ih =>
    rw [noEnds_cons] at h
    rw [List.cons_append, openLines_cons h.1, ih h.2, hrest]
    rfl

/-- `openLines line = [line]`: a text without ends is one line. -/
theorem openLines_of_noEnds {line : Text} (h : NoEnds line) : openLines line = [line] := by
  simpa using openLines_append_of_noEnds h []

/-- **A line and its end come before the lines of the rest.** -/
theorem openLines_append_terminator {line terminator rest : Text} (hline : NoEnds line)
    (hend : Terminator terminator) (h : Parted terminator rest) :
    openLines (line ++ terminator ++ rest) = line :: openLines rest := by
  rw [List.append_assoc, openLines_append_of_noEnds hline]
  have hfirst : openLines (terminator ++ rest) = [] :: openLines rest := by
    cases hend with
    | lineFeed => exact openLines_end (by decide) h
    | pair => exact openLines_pair rest
    | carriageReturn => exact openLines_end (by decide) h
  rw [hfirst, List.modifyHead_cons, List.append_nil]

/-- A text that has ends begins with a line and its end. -/
theorem exists_eq_append_terminator {text : Text} (h : ¬ NoEnds text) :
    ∃ line terminator rest, NoEnds line ∧ Terminator terminator ∧ Parted terminator rest ∧
      text = line ++ terminator ++ rest := by
  induction text with
  | nil => exact absurd noEnds_nil h
  | cons c text ih =>
    by_cases hc : isLineEnd c = true
    · have hcases : c = '\r' ∨ c = '\n' := by simpa [isLineEnd] using hc
      rcases hcases with rfl | rfl
      · -- the longest end is taken, so that it is not parted from its second half
        by_cases hpair : text.head? = some '\n'
        · obtain ⟨rest, rfl⟩ : ∃ rest, text = '\n' :: rest := ⟨_, List.eq_cons_of_mem_head? hpair⟩
          exact ⟨[], _, rest, noEnds_nil, .pair, by simp [Parted], rfl⟩
        · exact ⟨[], _, text, noEnds_nil, .carriageReturn, by simp [Parted, hpair], rfl⟩
      · exact ⟨[], _, text, noEnds_nil, .lineFeed, by simp [Parted], rfl⟩
    · have hc' : isLineEnd c = false := by simpa using hc
      have htext : ¬ NoEnds text := fun htext => h (noEnds_cons.mpr ⟨hc', htext⟩)
      obtain ⟨line, terminator, rest, hline, hend, hparted, rfl⟩ := ih htext
      exact ⟨c :: line, terminator, rest, noEnds_cons.mpr ⟨hc', hline⟩, hend, hparted, rfl⟩

/-- **What holds of a text without ends, and of a line with its end before any text of which it
holds, holds of every text.** -/
@[elab_as_elim] theorem lineInduction {motive : Text → Prop}
    (last : ∀ line, NoEnds line → motive line)
    (step : ∀ line terminator rest, NoEnds line → Terminator terminator →
      Parted terminator rest → motive rest → motive (line ++ terminator ++ rest))
    (text : Text) : motive text := by
  by_cases h : NoEnds text
  · exact last text h
  · obtain ⟨line, terminator, rest, hline, hend, hparted, heq⟩ := exists_eq_append_terminator h
    have hshorter : rest.length < text.length := by
      rw [heq]
      cases hend <;> simp <;> omega
    rw [heq]
    exact step line terminator rest hline hend hparted (lineInduction last step rest)
termination_by text.length

/-! ## Counting lines -/

/-- `endCount (line ++ rest) = endCount rest`: a text without ends does not change the number of
lines that end after it. -/
theorem endCount_append_of_noEnds {line : Text} (h : NoEnds line) (rest : Text) :
    endCount (line ++ rest) = endCount rest := by
  induction line with
  | nil => rfl
  | cons c line ih =>
    rw [noEnds_cons] at h
    -- a character that ends no line is not the first half of a pair
    have hc : c ≠ '\r' := by
      rintro rfl
      exact absurd h.1 (by decide)
    rw [List.cons_append, endCount.eq_def]
    split
    · next heq => exact absurd (List.cons.inj heq).1 hc
    · next heq =>
      obtain ⟨rfl, rfl⟩ := List.cons.inj heq
      rw [if_neg (by simp [h.1]), ih h.2]
    · next heq => exact absurd heq (by simp)

/-- `endCount line = 0`: in a text without ends no line ends. -/
theorem endCount_of_noEnds {line : Text} (h : NoEnds line) : endCount line = 0 := by
  have hcount := endCount_append_of_noEnds h []
  rwa [List.append_nil] at hcount

/-- `endCount (terminator ++ rest) = endCount rest + 1`: an end of a line is one more. -/
theorem endCount_terminator_append {terminator rest : Text} (hend : Terminator terminator)
    (h : Parted terminator rest) : endCount (terminator ++ rest) = endCount rest + 1 := by
  cases hend with
  | lineFeed => rfl
  | pair => rfl
  | carriageReturn =>
    rw [List.singleton_append, endCount.eq_def]
    split
    · next heq =>
      rw [(List.cons.inj heq).2] at h
      exact absurd ⟨rfl, rfl⟩ h
    · next heq =>
      obtain ⟨rfl, rfl⟩ := List.cons.inj heq
      rfl
    · next heq => exact absurd heq (by simp)

/-- `endCount (line ++ terminator ++ rest) = endCount rest + 1`: a line and its end are one more
line that has ended. -/
theorem endCount_append_terminator {line terminator rest : Text} (hline : NoEnds line)
    (hend : Terminator terminator) (h : Parted terminator rest) :
    endCount (line ++ terminator ++ rest) = endCount rest + 1 := by
  rw [List.append_assoc, endCount_append_of_noEnds hline, endCount_terminator_append hend h]

/-- `(openLines text).length = endCount text + 1`: there is one more line than lines that have
ended. -/
theorem length_openLines (text : Text) : (openLines text).length = endCount text + 1 := by
  induction text using lineInduction with
  | last line hline =>
    rw [openLines_of_noEnds hline, endCount_of_noEnds hline]
    rfl
  | step line terminator rest hline hend hparted ih =>
    rw [openLines_append_terminator hline hend hparted, List.length_cons, ih,
      endCount_append_terminator hline hend hparted]

/-! ## The last line -/

/-- What `p` holds for at the end of a text goes on with all that comes after it. -/
theorem rtakeWhile_append_of_pos {α : Type} {p : α → Bool} {back : List α}
    (h : ∀ x ∈ back, p x = true) (front : List α) :
    (front ++ back).rtakeWhile p = front.rtakeWhile p ++ back := by
  have hreverse : ∀ x ∈ back.reverse, p x = true := fun x hx => h x (List.mem_reverse.mp hx)
  rw [List.rtakeWhile, List.reverse_append, List.takeWhile_append_of_pos hreverse,
    List.reverse_append, List.reverse_reverse, List.rtakeWhile]

/-- What comes before an item that `p` fails for has no part in what `p` holds for at the end. -/
theorem rtakeWhile_append_cons_of_neg {α : Type} {p : α → Bool} {x : α} (h : p x = false)
    (front back : List α) : (front ++ x :: back).rtakeWhile p = back.rtakeWhile p := by
  induction back using List.reverseRecOn with
  | nil => rw [List.rtakeWhile_concat_neg p front x (by simp [h]), List.rtakeWhile_nil]
  | append_singleton back y ih =>
    have hconcat : front ++ x :: (back ++ [y]) = (front ++ x :: back) ++ [y] := by simp
    rw [hconcat, List.rtakeWhile_concat, List.rtakeWhile_concat, ih]

/-- `lastLine (front ++ back) = lastLine front ++ back`: more of a line belongs to the last line. -/
theorem lastLine_append {back : Text} (h : NoEnds back) (front : Text) :
    lastLine (front ++ back) = lastLine front ++ back :=
  rtakeWhile_append_of_pos (fun c hc => by simp [h c hc]) front

/-- `lastLine line = line`: a text without ends is its own last line. -/
theorem lastLine_of_noEnds {line : Text} (h : NoEnds line) : lastLine line = line :=
  lastLine_append h []

/-- `lastLine text = []`: nothing comes after the last end of a text that ends with it, or that is
empty. -/
theorem lastLine_eq_nil {text : Text} (h : ∀ c ∈ text.getLast?, isLineEnd c = true) :
    lastLine text = [] := by
  rw [lastLine, List.rtakeWhile_eq_nil_iff]
  intro hne
  simpa using h _ (List.getLast?_eq_some_getLast hne)

/-- `lastLine (line ++ terminator ++ rest) = lastLine rest`: a line and its end in front of a text
do not change its last line. -/
theorem lastLine_append_terminator {terminator : Text} (line rest : Text)
    (hend : Terminator terminator) : lastLine (line ++ terminator ++ rest) = lastLine rest := by
  rw [List.append_assoc]
  cases hend with
  | lineFeed => exact rtakeWhile_append_cons_of_neg (by decide) line rest
  | pair =>
    -- the line feed alone already keeps the line out
    have hpair : line ++ (['\r', '\n'] ++ rest) = (line ++ ['\r']) ++ '\n' :: rest := by simp
    rw [hpair]
    exact rtakeWhile_append_cons_of_neg (by decide) _ rest
  | carriageReturn => exact rtakeWhile_append_cons_of_neg (by decide) line rest

/-- `∃ front, openLines text = front ++ [lastLine text]`: the last line is the one that is open. -/
theorem exists_openLines_eq (text : Text) : ∃ front, openLines text = front ++ [lastLine text] := by
  induction text using lineInduction with
  | last line hline =>
    refine ⟨[], ?_⟩
    rw [openLines_of_noEnds hline, lastLine_of_noEnds hline]
    rfl
  | step line terminator rest hline hend hparted ih =>
    obtain ⟨front, hrest⟩ := ih
    refine ⟨line :: front, ?_⟩
    rw [openLines_append_terminator hline hend hparted, hrest, lastLine_append_terminator _ _ hend]
    rfl

/-! ## Texts put together -/

/-- **The lines of two texts put together: the last line of the first goes on with the first line of
the second.** -/
theorem openLines_append {front back : Text} (h : Parted front back) {before after : List Text}
    {last first : Text} (hfront : openLines front = before ++ [last])
    (hback : openLines back = first :: after) :
    openLines (front ++ back) = before ++ (last ++ first) :: after := by
  induction front using lineInduction generalizing before with
  | last line hline =>
    have hsingle : [] ++ [line] = before ++ [last] := by
      rw [← hfront, openLines_of_noEnds hline]
      rfl
    obtain ⟨rfl, hlast⟩ := List.append_inj' hsingle rfl
    rw [openLines_append_of_noEnds hline, hback, ← List.singleton_inj.mp hlast]
    rfl
  | step line terminator rest hline hend hparted ih =>
    rw [openLines_append_terminator hline hend hparted] at hfront
    rcases before with _ | ⟨head, before⟩
    · exact absurd (List.cons.inj hfront).2 (openLines_ne_nil rest)
    · obtain ⟨rfl, hrest⟩ := List.cons.inj hfront
      -- the end of the first line is still whole when `back` is put behind the others
      have hjoint : Parted terminator (rest ++ back) := hparted.append_of_line h
      rw [List.append_assoc, openLines_append_terminator hline hend hjoint,
        ih h.of_append hrest]
      rfl

end RomCompiler.Listing
