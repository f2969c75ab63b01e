import RomCompiler.Compilation
import RomCompiler.Proofs.Text.Quoted

/-! # Diagnostics are told apart by their messages

A message names all that a diagnostic knows: the numbers in full, and the pieces of the input in
quotations, which they can't leave. No two diagnostics are put in the same words, not even for a
token that looks like an escape, or like the rest of a message.
* **`OpensWith`** — the first characters of a message, which tell the kinds of diagnostics apart.
* **`Listing.Markers.Fault.messageBy`**, **`Listing.Fault.messageBy`** — the messages, with the
  characters in their quotations written in any way that tells them.
* **`Listing.Markers.Fault.messageBy_inj`**, **`Listing.Fault.messageBy_inj`**,
  **`Image.Fault.message_inj`** — a message stands for one diagnostic of its stage.
* **`messageBy_injective`**, **`message_injective`** — a message stands for one diagnostic of all
  stages, and so do the messages of the program. -/

namespace RomCompiler

/-! ## The parts of a message -/

/-- `OpensWith openings message`: a message opens with one of some texts. -/
def OpensWith (openings : List Text) (message : String) : Prop :=
  ∃ opening ∈ openings, opening <+: message.toList

/-- Messages differ if none of the openings of either one begins like one of the other. -/
theorem OpensWith.ne {openings others : List Text} {message other : String}
    (h : OpensWith openings message) (hother : OpensWith others other)
    (hdiffer : ∀ first ∈ openings, ∀ second ∈ others, ¬ first <+: second ∧ ¬ second <+: first) :
    message ≠ other := by
  rintro rfl
  obtain ⟨first, hfirst, hmessage⟩ := h
  obtain ⟨second, hsecond, hsame⟩ := hother
  have hnot := hdiffer first hfirst second hsecond
  exact (List.prefix_or_prefix_of_prefix hmessage hsame).elim hnot.1 hnot.2

/-- A message with a part in front opens as this part does. -/
theorem opensWith_of_toList_eq {openings : List Text} {front back : Text} {message : String}
    (h : message.toList = front ++ back) (hfront : ∃ opening ∈ openings, opening <+: front) :
    OpensWith openings message := by
  obtain ⟨opening, hopening, hprefix⟩ := hfront
  refine ⟨opening, hopening, ?_⟩
  rw [h]
  exact hprefix.trans (List.prefix_append front back)

/-- `(decimal n).toList = Nat.toDigits 10 n`: a number is told in its digits. -/
theorem toList_decimal (n : Nat) : (decimal n).toList = Nat.toDigits 10 n := String.toList_ofList

/-- `(prefixedHex n).toList = '0' :: 'x' :: Nat.toDigits 16 n`: a number of bytes is told in its
digits after the mark of their base. -/
theorem toList_prefixedHex (n : Nat) :
    (prefixedHex n).toList = '0' :: 'x' :: Nat.toDigits 16 n := by
  have hmark : "0x".toList = ['0', 'x'] := rfl
  rw [prefixedHex, hexadecimal, String.toList_append, hmark, String.toList_ofList]
  rfl

/-- A number of bytes up to a blank tells the number. -/
theorem prefixedHex_append_inj {n m : Nat} {x y : Text}
    (h : (prefixedHex n).toList ++ ' ' :: x = (prefixedHex m).toList ++ ' ' :: y) :
    n = m ∧ x = y := by
  rw [toList_prefixedHex, toList_prefixedHex] at h
  exact Numeral.toDigits_append_inj (by decide) (by decide) (by decide)
    (List.cons.inj (List.cons.inj h).2).2

/-! ## Markers -/

namespace Listing.Markers.Fault

open Text (Writing quotedCharBy quotedCharBy_append_inj)

/-- `messageBy writing`: the message about markers, with characters written in the given way. -/
def messageBy (writing : Writing '\'') : Fault → String
  | .reserved c => quotedCharBy writing c ++ " can't be used as a separator or comment marker"
  | .same c => "separator and comment marker are both " ++ quotedCharBy writing c

variable {writing : Writing '\''}

/-- `message = messageBy (.ofEscape '\'')`: the message of the program is one of these. -/
theorem message_eq_messageBy : message = messageBy (.ofEscape '\'') := by
  funext fault
  cases fault <;> rfl

/-- The message about a reserved character begins with its quotation. -/
theorem toList_messageBy_reserved (c : Char) :
    ((reserved c).messageBy writing).toList = (quotedCharBy writing c).toList ++
      " can't be used as a separator or comment marker".toList :=
  String.toList_append ..

/-- The message about a character in both roles ends with its quotation. -/
theorem toList_messageBy_same (c : Char) :
    ((same c).messageBy writing).toList =
      "separator and comment marker are both ".toList ++ (quotedCharBy writing c).toList :=
  String.toList_append ..

/-- `OpensWith [['\''], ['s', 'e']] (fault.messageBy writing)`: a message about markers opens with a
quotation, or names the separator first. -/
theorem opensWith_messageBy (fault : Fault) :
    OpensWith [['\''], ['s', 'e']] (fault.messageBy writing) := by
  cases fault with
  | reserved c =>
    refine opensWith_of_toList_eq (toList_messageBy_reserved c) ⟨['\''], by simp, ?_⟩
    rw [quotedCharBy, String.toList_ofList]
    exact ⟨_, rfl⟩
  | same c => exact opensWith_of_toList_eq (toList_messageBy_same c) (by decide)

/-- `(reserved c).messageBy writing ≠ (same d).messageBy writing`: the two messages about markers
begin differently. -/
theorem messageBy_reserved_ne_same {c d : Char} :
    (reserved c).messageBy writing ≠ (same d).messageBy writing := by
  intro h
  have hlist := congrArg String.toList h
  rw [toList_messageBy_reserved, toList_messageBy_same, quotedCharBy, String.toList_ofList] at hlist
  exact absurd (List.cons.inj hlist).1 (by decide)

/-- **A message about markers stands for one fault.** -/
theorem messageBy_inj {first second : Fault}
    (h : first.messageBy writing = second.messageBy writing) : first = second := by
  have hlist := congrArg String.toList h
  cases first with
  | reserved c =>
    cases second with
    | reserved d =>
      rw [toList_messageBy_reserved, toList_messageBy_reserved] at hlist
      rw [(quotedCharBy_append_inj hlist).1]
    | same d => exact absurd h messageBy_reserved_ne_same
  | same c =>
    cases second with
    | reserved d => exact absurd h.symm messageBy_reserved_ne_same
    | same d =>
      rw [toList_messageBy_same, toList_messageBy_same, List.append_cancel_left_eq,
        ← List.append_nil (quotedCharBy writing c).toList,
        ← List.append_nil (quotedCharBy writing d).toList] at hlist
      rw [(quotedCharBy_append_inj hlist).1]

end Listing.Markers.Fault

/-! ## Listings -/

namespace Listing.Fault

open Text (Writing quotedBy quotedBy_append_inj)

/-- `fault.messageBy writing`: the message about a listing, with the token written in the given way.
-/
def messageBy (writing : Writing '"') (fault : Fault) : String :=
  "syntax error at line " ++ decimal fault.line ++ ": " ++ quotedBy writing fault.token ++ " " ++
    fault.kind.reason

variable {writing : Writing '"'}

/-- `message = messageBy (.ofEscape '"')`: the message of the program is one of these. -/
theorem message_eq_messageBy : message = messageBy (.ofEscape '"') := rfl

/-- A message about a listing names the line, quotes the token, and says what is wrong with it. -/
theorem toList_messageBy (fault : Fault) :
    (fault.messageBy writing).toList = "syntax error at line ".toList ++
      (Nat.toDigits 10 fault.line ++ ':' :: ' ' ::
        ((quotedBy writing fault.token).toList ++ ' ' :: fault.kind.reason.toList)) := by
  have hcolon : ": ".toList = [':', ' '] := rfl
  have hblank : " ".toList = [' '] := rfl
  unfold messageBy
  simp only [String.toList_append, toList_decimal, hcolon, hblank, List.append_assoc,
    List.cons_append, List.nil_append]

/-- `OpensWith [['s', 'y']] (fault.messageBy writing)`: a message about a listing opens with its own
words. -/
theorem opensWith_messageBy (fault : Fault) :
    OpensWith [['s', 'y']] (fault.messageBy writing) :=
  opensWith_of_toList_eq (toList_messageBy fault) (by decide)

/-- What a message says about a token tells what is wrong with it. -/
theorem reason_inj {first second : Token.Fault} (h : first.reason = second.reason) :
    first = second := by
  cases first <;> cases second
  · rfl
  · exact absurd h (by decide)
  · exact absurd h (by decide)
  · rfl

/-- **A message about a listing stands for one fault.** -/
theorem messageBy_inj {first second : Fault}
    (h : first.messageBy writing = second.messageBy writing) : first = second := by
  obtain ⟨line, token, kind⟩ := first
  obtain ⟨line', token', kind'⟩ := second
  have hlist := congrArg String.toList h
  rw [toList_messageBy, toList_messageBy, List.append_cancel_left_eq] at hlist
  -- the line ends at the colon, and the token at the closing quote
  obtain ⟨rfl, hquoted⟩ :=
    Numeral.toDigits_append_inj (by decide) (by decide) (by decide) hlist
  obtain ⟨rfl, hreason⟩ := quotedBy_append_inj (List.cons.inj hquoted).2
  obtain rfl := reason_inj (String.toList_injective (List.cons.inj hreason).2)
  rfl

end Listing.Fault

/-! ## Images -/

namespace Image.Fault

/-- The message about too much code names the size and the length of the code. -/
theorem toList_message_tooSmallForCode (size codeLength : Nat) :
    (tooSmallForCode size codeLength).message.toList = "ROM size ".toList ++
      ((prefixedHex size).toList ++ ' ' :: ("is smaller than the ".toList ++
        ((prefixedHex codeLength).toList ++ ' ' :: "bytes of code".toList))) := by
  have hthan : " is smaller than the ".toList = ' ' :: "is smaller than the ".toList := rfl
  have hcode : " bytes of code".toList = ' ' :: "bytes of code".toList := rfl
  unfold Fault.message
  simp only [String.toList_append, hthan, hcode, List.append_assoc, List.cons_append]

/-- The message about an image that ends before its reset vector names the size and the offset. -/
theorem toList_message_tooSmallForVector (size offset : Nat) :
    (tooSmallForVector size offset).message.toList = "ROM size ".toList ++
      ((prefixedHex size).toList ++ ' ' :: ("can't hold the reset vector at ".toList ++
        ((prefixedHex offset).toList ++ ' ' :: ("(need at least ".toList ++
          ((prefixedHex minimumSize).toList ++ ")".toList))))) := by
  have hhold : " can't hold the reset vector at ".toList =
    ' ' :: "can't hold the reset vector at ".toList := rfl
  have hneed : " (need at least ".toList = ' ' :: "(need at least ".toList := rfl
  unfold Fault.message
  simp only [String.toList_append, hhold, hneed, List.append_assoc, List.cons_append]

/-- The message about missing memory names the size. -/
theorem toList_message_noMemory (size : Nat) :
    (noMemory size).message.toList = "can't allocate a ROM of ".toList ++
      ((prefixedHex size).toList ++ ' ' :: "bytes".toList) := by
  have hbytes : " bytes".toList = ' ' :: "bytes".toList := rfl
  unfold Fault.message
  simp only [String.toList_append, hbytes, List.append_assoc]

/-- `OpensWith [['R'], ['c']] fault.message`: a message about an image opens with the image, or with
what can't be done. -/
theorem opensWith_message (fault : Fault) : OpensWith [['R'], ['c']] fault.message := by
  cases fault with
  | tooSmallForCode size codeLength =>
    exact opensWith_of_toList_eq (toList_message_tooSmallForCode size codeLength) (by decide)
  | tooSmallForVector size offset =>
    exact opensWith_of_toList_eq (toList_message_tooSmallForVector size offset) (by decide)
  | noMemory size => exact opensWith_of_toList_eq (toList_message_noMemory size) (by decide)

/-- Of an image that is too small the message says what does not fit right after the size. -/
theorem message_tooSmallForCode_ne_tooSmallForVector {size codeLength size' offset : Nat} :
    (tooSmallForCode size codeLength).message ≠ (tooSmallForVector size' offset).message := by
  intro h
  have hlist := congrArg String.toList h
  rw [toList_message_tooSmallForCode, toList_message_tooSmallForVector,
    List.append_cancel_left_eq] at hlist
  exact absurd (List.cons.inj (prefixedHex_append_inj hlist).2).1 (by decide)

/-- The message about missing memory does not begin like that about too much code. -/
theorem message_tooSmallForCode_ne_noMemory {size codeLength size' : Nat} :
    (tooSmallForCode size codeLength).message ≠ (noMemory size').message := by
  intro h
  have hlist := congrArg String.toList h
  rw [toList_message_tooSmallForCode, toList_message_noMemory] at hlist
  exact absurd (List.cons.inj hlist).1 (by decide)

/-- The message about missing memory does not begin like that about the reset vector. -/
theorem message_tooSmallForVector_ne_noMemory {size offset size' : Nat} :
    (tooSmallForVector size offset).message ≠ (noMemory size').message := by
  intro h
  have hlist := congrArg String.toList h
  rw [toList_message_tooSmallForVector, toList_message_noMemory] at hlist
  exact absurd (List.cons.inj hlist).1 (by decide)

/-- **A message about an image stands for one fault.** -/
theorem message_inj {first second : Fault} (h : first.message = second.message) :
    first = second := by
  have hlist := congrArg String.toList h
  cases first with
  | tooSmallForCode size codeLength =>
    cases second with
    | tooSmallForCode size' codeLength' =>
      rw [toList_message_tooSmallForCode, toList_message_tooSmallForCode,
        List.append_cancel_left_eq] at hlist
      obtain ⟨rfl, hcode⟩ := prefixedHex_append_inj hlist
      rw [List.append_cancel_left_eq] at hcode
      rw [(prefixedHex_append_inj hcode).1]
    | tooSmallForVector => exact absurd h message_tooSmallForCode_ne_tooSmallForVector
    | noMemory => exact absurd h message_tooSmallForCode_ne_noMemory
  | tooSmallForVector size offset =>
    cases second with
    | tooSmallForCode => exact absurd h.symm message_tooSmallForCode_ne_tooSmallForVector
    | tooSmallForVector size' offset' =>
      rw [toList_message_tooSmallForVector, toList_message_tooSmallForVector,
        List.append_cancel_left_eq] at hlist
      obtain ⟨rfl, hoffset⟩ := prefixedHex_append_inj hlist
      rw [List.append_cancel_left_eq] at hoffset
      rw [(prefixedHex_append_inj hoffset).1]
    | noMemory => exact absurd h message_tooSmallForVector_ne_noMemory
  | noMemory size =>
    cases second with
    | tooSmallForCode => exact absurd h.symm message_tooSmallForCode_ne_noMemory
    | tooSmallForVector => exact absurd h.symm message_tooSmallForVector_ne_noMemory
    | noMemory size' =>
      rw [toList_message_noMemory, toList_message_noMemory, List.append_cancel_left_eq] at hlist
      rw [(prefixedHex_append_inj hlist).1]

end Image.Fault

/-! ## All stages -/

/-- **A message stands for one diagnostic**, however the characters in its quotations are written:
the kinds of diagnostics open differently, and within a kind nothing is lost. -/
theorem messageBy_injective (texts : Text.Writing '"') (chars : Text.Writing '\'') :
    Function.Injective (Sum.elim (Listing.Markers.Fault.messageBy chars)
      (Sum.elim (Listing.Fault.messageBy texts) Image.Fault.message)) := by
  rintro (markers | listing | image) (markers' | listing' | image') h
  · rw [Listing.Markers.Fault.messageBy_inj h]
  · exact absurd h (markers.opensWith_messageBy.ne listing'.opensWith_messageBy (by decide))
  · exact absurd h (markers.opensWith_messageBy.ne image'.opensWith_message (by decide))
  · exact absurd h (listing.opensWith_messageBy.ne markers'.opensWith_messageBy (by decide))
  · rw [Listing.Fault.messageBy_inj h]
  · exact absurd h (listing.opensWith_messageBy.ne image'.opensWith_message (by decide))
  · exact absurd h (image.opensWith_message.ne markers'.opensWith_messageBy (by decide))
  · exact absurd h (image.opensWith_message.ne listing'.opensWith_messageBy (by decide))
  · rw [Image.Fault.message_inj h]

/-- **The messages of the program are told apart**: if two diagnostics, about markers, a listing or
an image, have the same message, then they are about the same, are of one kind and have the same
line, token, character and numbers, whatever the token and the character are. This does not hang on
which characters the program escapes: it holds of every `Text.Writing`, and `Text.escape` is one. -/
theorem message_injective :
    (∀ (texts : Text.Writing '"') (chars : Text.Writing '\''),
      Function.Injective (Sum.elim (Listing.Markers.Fault.messageBy chars)
        (Sum.elim (Listing.Fault.messageBy texts) Image.Fault.message))) ∧
    Function.Injective (Sum.elim Listing.Markers.Fault.message
      (Sum.elim Listing.Fault.message Image.Fault.message)) := by
  refine ⟨messageBy_injective, ?_⟩
  rw [Listing.Markers.Fault.message_eq_messageBy, Listing.Fault.message_eq_messageBy]
  exact messageBy_injective _ _

end RomCompiler
