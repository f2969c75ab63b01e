import RomCompiler.CommandLine.Run
import RomCompiler.Proofs.Terminal.Plain

/-! # What the user is told

Every fault that ends a run is told in one text on the standard error output. This module writes
these texts out, whole and fault by fault.
* **`Refusal.words`** — what the system says when it refuses something.
* **`UsageFault.told`** — the text about wrong arguments, in which what the user has typed stands as
  a terminal shows it; **`UsageFault.report_eq_told`** — the report is this text.
* **`Failure.told`** — the text about a compilation that failed; **`Failure.message_eq_words`** —
  the message is the failure in these words. -/

namespace RomCompiler

/-! ## Refusals -/

/-- `systemError text number`: an error of the system, in its words and with its number. -/
def systemError (text : String) (number : Nat) : String :=
  text ++ " (os error " ++ decimal number ++ ")"

/-- **A refusal in words.** Most of them are those of the system, and end with its number. -/
def Refusal.words : Refusal → String
  | .notFound => systemError "No such file or directory" 2
  | .busy => systemError "Device or resource busy" 16
  | .notDirectory => systemError "Not a directory" 20
  | .isDirectory => systemError "Is a directory" 21
  | .invalidArgument => systemError "Invalid argument" 22
  | .nameTooLong => systemError "File name too long" 36
  | .nulByte => "file name contained an unexpected NUL byte"
  | .other description => description

/-- `refusal.description = refusal.words`: the description of a refusal is the refusal in words. -/
theorem Refusal.description_eq_words (refusal : Refusal) : refusal.description = refusal.words := by
  cases refusal <;> rfl

namespace CommandLine

open Terminal

/-! ## Wrong arguments -/

/-- **An option as the user has to write it**: its long name after two dashes, and the name of its
value in capitals. -/
def Setting.usage (setting : Setting) : String :=
  "--" ++ setting.long ++ " <" ++ String.ofList (setting.long.toList.map Char.toUpper) ++ ">"

/-- What comes before `--help` at the end of every `UsageFault.words`. -/
def hint : String := "\n\nFor more information, try '"

/-- **A fault of the arguments in plain words**, up to the name of the option that helps. What the
user has typed stands in them as `shown`. A text that is not a size is mentioned twice, and the
second time in no style, so a sequence that it leaves open swallows what comes after it. -/
def UsageFault.words : UsageFault → String
  | .missingValue setting =>
    "a value is required for '" ++ setting.usage ++ "' but none was supplied" ++ hint
  | .repeated option =>
    "the argument '" ++ shown option ++ "' cannot be used multiple times" ++ hint
  | .invalidSize fault =>
    "invalid value '" ++ shown (String.ofList fault.text) ++ "' for '" ++ Setting.size.usage ++
      "': " ++ "invalid size '" ++
      shown (String.ofList fault.text ++ "': " ++ fault.reason.reason ++ hint)
  | .invalidCharacter setting value =>
    "invalid value '" ++ shown (String.ofList value) ++ "' for '" ++ setting.usage ++ "': " ++
      (if value = [] then "cannot parse char from empty string"
        else "too many characters in string") ++ hint
  | .unexpectedValue name value =>
    "unexpected value '" ++ shown (String.ofList value) ++ "' for '" ++
      shown (String.ofList ('-' :: '-' :: name)) ++ "' found; no more were expected" ++ hint
  | .unexpectedArgument argument =>
    "unexpected argument '" ++ shown (String.ofList argument) ++ "' found" ++ hint
  | .missingSize => "the following required arguments were not provided:" ++ hint

/-- **The text about wrong arguments**, without the lines that `UsageFault.notice` leaves out. -/
def UsageFault.told (fault : UsageFault) : String := "error: " ++ fault.words ++ "--help'.\n"

/-- `setting.shown = setting.usage ∧ IsPlain setting.usage`: messages show an option as it is
written, in which there are no controls. -/
theorem Setting.shown_eq_usage (setting : Setting) :
    setting.shown = setting.usage ∧ IsPlain setting.usage := by
  cases setting <;> exact ⟨by decide, by decide⟩

/-- The hint has no controls. -/
theorem isPlain_hint : IsPlain hint := by decide

/-- A message that sets off one part has this part as it is shown on its own. -/
theorem shown_mark_hint {front rest : String} (style : Style) (part : String)
    (hfront : IsPlain front) (hrest : IsPlain rest) :
    shown (front ++ style.mark part ++ rest ++ hint) = front ++ shown part ++ rest ++ hint := by
  have hback : IsPlain (rest ++ hint) := isPlain_append.mpr ⟨hrest, isPlain_hint⟩
  rw [String.append_assoc, shown_append_mark, shown_of_isPlain hfront, shown_of_isPlain hback,
    ← String.append_assoc]

/-- A message that sets off two parts has both as they are shown on their own. -/
theorem shown_two_marks {front middle : String} (first second : Style)
    (part other rest : String) (hfront : IsPlain front) (hmiddle : IsPlain middle) :
    shown (front ++ first.mark part ++ middle ++ second.mark other ++ rest) =
      front ++ shown part ++ middle ++ shown other ++ shown rest := by
  rw [shown_append_mark, shown_append_mark, shown_of_isPlain hfront, shown_of_isPlain hmiddle]

/-- A message about a value sets off the value and the option, and ends with the reason. -/
theorem shown_invalidValue (setting : Setting) (value : Text) (reason : String) :
    shown (UsageFault.invalidValue setting value reason ++ hint) =
      "invalid value '" ++ shown (String.ofList value) ++ "' for '" ++ setting.usage ++ "': " ++
        shown (reason ++ hint) := by
  obtain ⟨hshown, hplain⟩ := setting.shown_eq_usage
  have hback : IsPlain "': " := by decide
  unfold UsageFault.invalidValue
  rw [String.append_assoc, String.append_assoc, shown_two_marks, shown_append hback, hshown,
    shown_of_isPlain hplain, ← String.append_assoc]
  · decide
  · decide

/-- `shown (fault.message ++ hint) = fault.words`: the message about a fault, without its styles, is
the fault in plain words. -/
theorem UsageFault.shown_message (fault : UsageFault) :
    shown (fault.message ++ hint) = fault.words := by
  cases fault with
  | missingValue setting =>
    obtain ⟨hshown, hplain⟩ := setting.shown_eq_usage
    refine (shown_mark_hint _ _ ?_ ?_).trans ?_
    · decide
    · decide
    · rw [hshown, shown_of_isPlain hplain]
      rfl
  | repeated option =>
    refine (shown_mark_hint _ _ ?_ ?_).trans ?_
    · decide
    · decide
    · rfl
  | invalidSize fault =>
    -- the reason names the text once more, and there it has no style of its own
    have hback : shown (fault.message ++ hint) = "invalid size '" ++
        shown (String.ofList fault.text ++ "': " ++ fault.reason.reason ++ hint) := by
      have hfront : IsPlain "invalid size '" := by decide
      rw [← shown_append hfront]
      unfold Size.Fault.message
      simp only [String.append_assoc]
    refine (shown_invalidValue _ _ _).trans ?_
    rw [hback, ← String.append_assoc]
    rfl
  | invalidCharacter setting value =>
    have hback : shown (characterReason value ++ hint) =
        (if value = [] then "cannot parse char from empty string"
          else "too many characters in string") ++ hint := by
      rcases value with _ | ⟨c, value⟩
      · have hreason : IsPlain "cannot parse char from empty string" := by decide
        exact shown_of_isPlain (isPlain_append.mpr ⟨hreason, isPlain_hint⟩)
      · have hreason : IsPlain "too many characters in string" := by decide
        exact shown_of_isPlain (isPlain_append.mpr ⟨hreason, isPlain_hint⟩)
    refine (shown_invalidValue _ _ _).trans ?_
    rw [hback, ← String.append_assoc]
    rfl
  | unexpectedValue name value =>
    have hcut : message (.unexpectedValue name value) ++ hint =
        "unexpected value '" ++ Style.faulty.mark (String.ofList value) ++ "' for '" ++
          Style.literal.mark (String.ofList (longOption name)) ++
          ("' found; no more were expected" ++ hint) := String.append_assoc
    have hback : IsPlain ("' found; no more were expected" ++ hint) :=
      isPlain_append.mpr ⟨by decide, isPlain_hint⟩
    rw [hcut, shown_two_marks, shown_of_isPlain hback, ← String.append_assoc]
    · rfl
    · decide
    · decide
  | unexpectedArgument argument =>
    refine (shown_mark_hint _ _ ?_ ?_).trans ?_
    · decide
    · decide
    · rfl
  | missingSize =>
    refine shown_of_isPlain ?_
    exact isPlain_append.mpr ⟨by decide, isPlain_hint⟩

/-- **The report about wrong arguments is the text about them.** -/
theorem UsageFault.report_eq_told (fault : UsageFault) : fault.report = fault.told := by
  -- the style of the option that helps is where the message is cut
  have hnotice : fault.notice = "error: " ++ (fault.message ++ hint) ++
      Style.literal.mark "--help" ++ "'.\n" := by
    unfold notice
    simp only [hint, String.append_assoc]
    rfl
  have hfront : IsPlain "error: " := by decide
  have hhelp : IsPlain "--help" := by decide
  have hback : IsPlain "'.\n" := by decide
  rw [report, ← shown, hnotice, shown_append_mark, shown_append hfront, fault.shown_message,
    shown_of_isPlain hhelp, shown_of_isPlain hback, told, String.append_assoc]
  rfl

-- what a colour in an argument tells the terminal does not reach it
example : UsageFault.report (.unexpectedArgument ['a', '\x1b', '[', '3', '1', 'm', 'b']) =
    "error: unexpected argument 'ab' found\n\nFor more information, try '--help'.\n" := by
  decide +kernel

/-! ## A compilation that failed -/

/-- **A failed compilation in words**, failure by failure. The reason why an image was not saved is
told twice, once with its path and then as the cause of the whole. -/
def Failure.words : Failure → String
  | .source (.refused refusal) => "can't read source: " ++ refusal.words
  | .source .notText => "can't read source: stream did not contain valid UTF-8"
  | .job (.markers (.reserved c)) =>
    Text.quotedChar c ++ " can't be used as a separator or comment marker"
  | .job (.markers (.same c)) => "separator and comment marker are both " ++ Text.quotedChar c
  | .job (.compilation (.listing ⟨line, token, .malformed⟩)) =>
    "syntax error at line " ++ decimal line ++ ": " ++ Text.quoted token ++
      " is not a byte of the form 0xHL"
  | .job (.compilation (.listing ⟨line, token, .tooLarge⟩)) =>
    "syntax error at line " ++ decimal line ++ ": " ++ Text.quoted token ++
      " doesn't fit in a byte"
  | .job (.compilation (.image (.tooSmallForCode size codeLength))) =>
    "ROM size " ++ prefixedHex size ++ " is smaller than the " ++ prefixedHex codeLength ++
      " bytes of code"
  | .job (.compilation (.image (.tooSmallForVector size offset))) =>
    "ROM size " ++ prefixedHex size ++ " can't hold the reset vector at " ++ prefixedHex offset ++
      " (need at least 0x7ffe)"
  | .job (.compilation (.image (.noMemory size))) =>
    "can't allocate a ROM of " ++ prefixedHex size ++ " bytes"
  | .job (.saving ⟨path, .temporary ⟨temporary, refusal⟩⟩) =>
    String.ofList path ++ ": " ++ (refusal.words ++ " at path " ++ Text.quoted temporary) ++
      ": " ++ (refusal.words ++ " at path " ++ Text.quoted temporary)
  | .job (.saving ⟨path, .final refusal⟩) =>
    String.ofList path ++ ": " ++ refusal.words ++ ": " ++ refusal.words

/-- **The text about a failed compilation.** -/
def Failure.told (failure : Failure) : String := "error: " ++ failure.words ++ "\n"

/-- **The message about a failure is the failure in words**: `failure.message = failure.words`. -/
theorem Failure.message_eq_words (failure : Failure) : failure.message = failure.words := by
  -- only the words of a refusal are not those that the message is made of
  rcases failure with (refusal | _) | (markers | compilation | ⟨path, cause⟩)
  · exact congrArg ("can't read source: " ++ ·) refusal.description_eq_words
  · rfl
  · cases markers <;> rfl
  · rcases compilation with ⟨line, token, kind⟩ | image
    · cases kind <;> exact String.append_assoc
    · cases image with
      | tooSmallForCode => rfl
      | tooSmallForVector => exact String.append_assoc.trans String.append_assoc
      | noMemory => rfl
  · rcases cause with ⟨temporary, refusal⟩ | refusal
    · show _ = String.ofList path ++ ": " ++ (refusal.words ++ " at path " ++
        Text.quoted temporary) ++ ": " ++ (refusal.words ++ " at path " ++ Text.quoted temporary)
      rw [← refusal.description_eq_words]
      rfl
    · show _ = String.ofList path ++ ": " ++ refusal.words ++ ": " ++ refusal.words
      rw [← refusal.description_eq_words]
      rfl

end CommandLine

end RomCompiler
