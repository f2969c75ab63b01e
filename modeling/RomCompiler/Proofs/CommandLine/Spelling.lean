import Mathlib.Data.List.Nodup
import RomCompiler.Proofs.CommandLine.Stages

/-! # The spellings of a command line

What a command line asks for depends neither on the order of its options nor on the forms in which
they are given, and an option that is left out counts as given with its default.
* **`Choice`**, **`Spelling`** — what one option chooses, and the arguments that say so.
* **`Assignment`** — a choice for some of the options, each of which can have its value;
  **`Assignment.Spells`** — the arguments that make these choices in some order.
* **`exists_chose_of_spelling`** — what the arguments of one choice do to a draft;
  **`ofRest_of_spelled`** — what those of several choices do.
* **`ofArguments_of_spells`** — all arguments that spell an assignment ask for the same.
* **`runIn_eq_of_spells`** — and have the same outcome. -/

namespace RomCompiler.CommandLine

/-! ## Choices and their spellings -/

/-- **What one option on a command line chooses.** -/
inductive Choice where
  /-- The value of an option that takes one. -/
  | value (setting : Setting) (text : Text)
  /-- A hexdump in the end. -/
  | hexdump
  deriving DecidableEq, Repr

/-- The option that makes a choice; `Choice.hexdump` is made by one that takes no value. -/
def Choice.option : Choice → Option Setting
  | .value setting _ => some setting
  | .hexdump => none

/-- `choice.Fits`: the option can have the value that is chosen for it. -/
def Choice.Fits : Choice → Prop
  | .value .source _ | .hexdump => True
  | .value .size text => ∃ size, Size.parse text = .ok size
  | .value .output text => text ≠ []
  | .value .separator text | .value .comment text => ∃ c, text = [c]

/-- The short name of an option, if it has one. -/
def Setting.short? : Setting → Option Char
  | .source => some 'i'
  | .size => some 's'
  | .output => some 'o'
  | .separator | .comment => none

/-- `StandsApart text`: a value can be an argument of its own, since it does not look like an
option. A dash alone is none. -/
def StandsApart (text : Text) : Prop := text = ['-'] ∨ text.head? ≠ some '-'

/-- **The arguments that make a choice**: `Spelling choice arguments`, with a constructor for each
of the forms. -/
inductive Spelling : Choice → List Text → Prop
  /-- A long name, and its value as the next argument. -/
  | longApart (setting : Setting) {text : Text} (h : StandsApart text) :
      Spelling (.value setting text) [longOption setting.long.toList, text]
  /-- A long name with its value attached. -/
  | longAttached (setting : Setting) (text : Text) :
      Spelling (.value setting text) [longOption (setting.long.toList ++ '=' :: text)]
  /-- A short name, and its value as the next argument. -/
  | shortApart {setting : Setting} {name : Char} {text : Text}
      (hname : setting.short? = some name) (h : StandsApart text) :
      Spelling (.value setting text) [['-', name], text]
  /-- A short name with its value right after it. -/
  | shortAttached {setting : Setting} {name : Char} {text : Text}
      (hname : setting.short? = some name) (hne : text ≠ []) (hequals : text.head? ≠ some '=') :
      Spelling (.value setting text) ['-' :: name :: text]
  /-- A short name with its value after an equals sign. -/
  | shortEquals {setting : Setting} {name : Char} (hname : setting.short? = some name)
      (text : Text) : Spelling (.value setting text) ['-' :: name :: '=' :: text]
  /-- The name of the option that takes no value. -/
  | hexdump : Spelling .hexdump [longOption hexdumpName]

/-- **Arguments that make some choices, one after the other**: `Spelled choices arguments`, with a
`Spelling` for each choice. -/
inductive Spelled : List Choice → List Text → Prop
  /-- No arguments make no choices. -/
  | nil : Spelled [] []
  /-- The arguments of the first choice come before those of the others. -/
  | cons {choice : Choice} {choices : List Choice} {front back : List Text}
      (first : Spelling choice front) (rest : Spelled choices back) :
      Spelled (choice :: choices) (front ++ back)

/-! ## Assignments -/

/-- **A value for the size and for some of the other options.** -/
structure Assignment where
  /-- Where the listing is read from. -/
  source : Option Text := none
  /-- The size of the image, as it is written. -/
  size : Text
  /-- The size of the image. -/
  bytes : BitVec 64
  /-- The path of the image. -/
  output : Option Text := none
  /-- The character between two bytes. -/
  separator : Option Char := none
  /-- The character that opens a comment. -/
  comment : Option Char := none
  /-- Whether a hexdump is asked for. -/
  hexdump : Bool := false
  /-- The size is written as a size. -/
  parse_size : Size.parse size = .ok bytes
  /-- The path has at least one character. -/
  output_ne : output ≠ some []

namespace Assignment

/-- `assignment.value? setting`: the value for an option, as it is written. -/
def value? (assignment : Assignment) : Setting → Option Text
  | .source => assignment.source
  | .size => some assignment.size
  | .output => assignment.output
  | .separator => assignment.separator.map ([·])
  | .comment => assignment.comment.map ([·])

/-- **The choices of an assignment**, one for each option that it does not leave out. -/
def choices (assignment : Assignment) : List Choice :=
  [.source, .size, .output, .separator, .comment].filterMap
    (fun setting => (assignment.value? setting).map (.value setting)) ++
      if assignment.hexdump then [.hexdump] else []

/-- `assignment.Spells arguments`: some arguments make the choices of an assignment, in any order.
-/
def Spells (assignment : Assignment) (arguments : List Text) : Prop :=
  ∃ choices, choices.Perm assignment.choices ∧ Spelled choices arguments

/-- **The assignment with the defaults for what it leaves out**: `rom.bin`, a comma and a semicolon.
-/
def withDefaults (assignment : Assignment) : Assignment :=
  { assignment with
    output := some (assignment.output.getD "rom.bin".toList)
    separator := some (assignment.separator.getD ',')
    comment := some (assignment.comment.getD ';')
    output_ne := by
      rcases houtput : assignment.output with _ | output
      · decide
      · intro hnil
        exact assignment.output_ne (houtput.trans hnil) }

/-- **The options that an assignment asks for**, with the program's own defaults (`defaultOutput`,
`defaultSeparator`, `defaultComment`). -/
def options (assignment : Assignment) : Options where
  source := assignment.source
  size := assignment.bytes
  output := assignment.output.getD defaultOutput
  separator := assignment.separator.getD Listing.Markers.defaultSeparator
  comment := assignment.comment.getD Listing.Markers.defaultComment
  hexdump := assignment.hexdump

/-- `assignment.withDefaults.options = assignment.options`: to leave an option out is to ask for its
default. -/
theorem options_withDefaults (assignment : Assignment) :
    assignment.withDefaults.options = assignment.options := rfl

/-- Every choice of an assignment is a value that its option can have. -/
theorem fits_of_mem_choices {assignment : Assignment} {choice : Choice}
    (h : choice ∈ assignment.choices) : choice.Fits := by
  rw [choices, List.mem_append] at h
  rcases h with hvalue | hflag
  · obtain ⟨setting, -, hsetting⟩ := List.mem_filterMap.mp hvalue
    obtain ⟨text, htext, rfl⟩ := Option.map_eq_some_iff.mp hsetting
    cases setting with
    | source => trivial
    | size =>
      obtain rfl := Option.some.inj htext
      exact ⟨assignment.bytes, assignment.parse_size⟩
    | output =>
      rintro rfl
      exact assignment.output_ne htext
    | separator | comment =>
      obtain ⟨c, -, rfl⟩ := Option.map_eq_some_iff.mp htext
      exact ⟨c, rfl⟩
  · split at hflag
    · rw [List.mem_singleton.mp hflag]
      trivial
    · exact absurd hflag List.not_mem_nil

/-- Options that have a value choose once each. -/
theorem option_filterMap_sublist (value? : Setting → Option Text) (settings : List Setting) :
    ((settings.filterMap fun setting => (value? setting).map (.value setting)).map
      Choice.option).Sublist (settings.map some) := by
  induction settings with
  | nil => exact List.Sublist.slnil
  | cons setting settings ih =>
    rw [List.filterMap_cons, List.map_cons]
    rcases value? setting with _ | text
    · exact ih.cons (some setting)
    · exact ih.cons_cons (some setting)

/-- `(assignment.choices.map Choice.option).Nodup`: an assignment chooses at most once for an
option. -/
theorem nodup_option_choices (assignment : Assignment) :
    (assignment.choices.map Choice.option).Nodup := by
  have hall : (([.source, .size, .output, .separator, .comment] : List Setting).map some ++
      [none]).Nodup := by decide
  refine hall.sublist ?_
  rw [choices, List.map_append]
  refine (option_filterMap_sublist assignment.value? _).append ?_
  cases assignment.hexdump
  · exact List.nil_sublist [none]
  · exact List.Sublist.refl [none]

/-- What an assignment chooses, as a `Draft`, in which nothing is left out or filled in. -/
def draft (assignment : Assignment) : Draft where
  source := assignment.source
  size := (Size.parse assignment.size).toOption
  output := assignment.output
  separator := assignment.separator
  comment := assignment.comment
  hexdump := assignment.hexdump

end Assignment

/-! ## One choice -/

/-- `draft.record choice`: a draft with the value of a choice. -/
def Draft.record (draft : Draft) : Choice → Draft
  | .value .source text => { draft with source := some text }
  | .value .size text => { draft with size := (Size.parse text).toOption }
  | .value .output text => { draft with output := some text }
  | .value .separator text => { draft with separator := text.head? }
  | .value .comment text => { draft with comment := text.head? }
  | .hexdump => { draft with hexdump := true }

/-- `draft.Lacks choice`: a draft has nothing yet for the option of a choice. -/
def Draft.Lacks (draft : Draft) : Choice → Prop
  | .value setting _ => draft.has setting = false
  | .hexdump => draft.hexdump = false

/-- The arguments so far have chosen `settled`, also if the last option of `draft` is not judged
yet. -/
structure Draft.Chose (draft settled : Draft) : Prop where
  /-- Judging the last option gives what was chosen. -/
  settle_eq : draft.settle = .ok settled
  /-- No option is left to be judged. -/
  pending_eq : settled.pending = none

variable {draft settled next : Draft} {setting : Setting} {choice : Choice} {text argument : Text}
  {choices : List Choice} {arguments rest : List Text}

/-! ## The form of the arguments -/

/-- A long name is read as one. -/
theorem ofText_longOption (setting : Setting) :
    Argument.ofText (longOption setting.long.toList) = .long setting.long.toList none := by
  cases setting <;> decide

/-- A long name with a value attached is read as these two, whatever the value is. -/
theorem ofText_longOption_append (setting : Setting) (text : Text) :
    Argument.ofText (longOption (setting.long.toList ++ '=' :: text)) =
      .long setting.long.toList (some text) := by
  cases setting <;> rfl

/-- `Argument.ofText ('-' :: name :: rest) = .short name rest`: a short name is read as one, with
what comes after it. -/
theorem ofText_short {name : Char} (hname : setting.short? = some name) (rest : Text) :
    Argument.ofText ('-' :: name :: rest) = .short name rest := by
  cases setting <;> cases hname <;> rfl

/-- `Argument.ofText text = .plain text`: a value that stands apart is not read as an option. -/
theorem ofText_of_standsApart (h : StandsApart text) : Argument.ofText text = .plain text := by
  rcases h with rfl | h
  · rfl
  · unfold Argument.ofText
    split <;> simp_all

/-- `Setting.ofLong? setting.long.toList = some setting`: an option is found by its long name. -/
theorem ofLong?_long (setting : Setting) :
    Setting.ofLong? setting.long.toList = some setting := by
  cases setting <;> decide

/-- `Setting.ofShort? name = some setting`: an option is found by its short name. -/
theorem ofShort?_short {name : Char} (hname : setting.short? = some name) :
    Setting.ofShort? name = some setting := by
  cases setting <;> cases hname <;> rfl

/-! ## Reading one choice -/

/-- An option that lacks a value takes one that fits. -/
theorem assign_of_fits (hfits : (Choice.value setting text).Fits)
    (hlacks : draft.Lacks (.value setting text)) :
    draft.assign setting text = .ok (draft.record (.value setting text)) := by
  have hfree : draft.has setting = false := hlacks
  rw [Draft.assign, if_neg (by simp [hfree])]
  cases setting with
  | source => rfl
  | size =>
    obtain ⟨size, hsize⟩ := hfits
    simp only [Draft.store, Draft.record, hsize]
    rfl
  | output =>
    have hne : text ≠ [] := hfits
    rw [Draft.store, if_neg (by simpa using hne)]
    rfl
  | separator | comment =>
    obtain ⟨c, rfl⟩ := hfits
    rfl

/-- `(settled.record choice).pending = settled.pending`: a choice leaves no option to be judged. -/
theorem pending_record (choice : Choice) : (settled.record choice).pending = settled.pending := by
  rcases choice with ⟨_ | _ | _ | _ | _, _⟩ | _ <;> rfl

/-- `settled.Chose settled`: a draft in which nothing is left to be judged has chosen itself. -/
theorem chose_of_pending_eq (h : settled.pending = none) : settled.Chose settled :=
  ⟨by rw [Draft.settle, h], h⟩

/-- An argument with a long name gives its option the value that is attached. -/
theorem readArgument_long {value : Option Text}
    (h : Argument.ofText argument = .long setting.long.toList value) :
    draft.readArgument argument rest = .more <$> value.elim (draft.await setting)
      (draft.attach setting) := by
  unfold Draft.readArgument
  rw [h]
  change draft.readLong setting.long.toList value = _
  unfold Draft.readLong
  rw [ofLong?_long]
  cases value <;> rfl

/-- An argument with a short name gives its option what comes after the name, if that is not
empty. -/
theorem readArgument_short {name : Char} {back : Text} (hname : setting.short? = some name) :
    draft.readArgument ('-' :: name :: back) rest =
      .more <$> if back.isEmpty then draft.await setting
        else draft.attach setting (shortValue back) := by
  unfold Draft.readArgument
  rw [ofText_short hname]
  change draft.readShort name back = _
  rw [Draft.readShort, ofShort?_short hname]

/-- After an argument that is read, the others are read. -/
theorem ofRest_cons (h : draft.readArgument argument rest = .ok (.more next)) :
    Request.ofRest draft (argument :: rest) = Request.ofRest next rest := by
  rw [Request.ofRest, h]

/-- The value of a choice in an argument of its own is judged later, and recorded then. -/
theorem exists_chose_of_apart (h : draft.Chose settled) (hapart : StandsApart text)
    (hfits : (Choice.value setting text).Fits) (hlacks : settled.Lacks (.value setting text))
    (hread : ∀ rest, draft.readArgument argument rest = .more <$> draft.await setting) :
    ∃ next : Draft, next.Chose (settled.record (.value setting text)) ∧
      ∀ rest, Request.ofRest draft (argument :: text :: rest) = Request.ofRest next rest := by
  have hawait : draft.await setting = .ok { settled with pending := some (setting, none) } := by
    rw [Draft.await, h.settle_eq]
    rfl
  refine ⟨{ settled with pending := some (setting, some text) }, ⟨?_, ?_⟩, ?_⟩
  · have hback : { settled with pending := none } = settled := by
      rw [← h.pending_eq]
    exact (congrArg (Draft.assign · setting text) hback).trans (assign_of_fits hfits hlacks)
  · rw [pending_record, h.pending_eq]
  · intro rest
    have htake : Draft.readArgument { settled with pending := some (setting, none) } text rest =
        .ok (.more { settled with pending := some (setting, some text) }) := by
      unfold Draft.readArgument
      rw [ofText_of_standsApart hapart]
      rfl
    rw [ofRest_cons (by rw [hread, hawait]; rfl), ofRest_cons htake]

/-- The value of a choice in the same argument is recorded at once. -/
theorem exists_chose_of_attached (h : draft.Chose settled)
    (hfits : (Choice.value setting text).Fits) (hlacks : settled.Lacks (.value setting text))
    (hread : ∀ rest, draft.readArgument argument rest = .more <$> draft.attach setting text) :
    ∃ next : Draft, next.Chose (settled.record (.value setting text)) ∧
      ∀ rest, Request.ofRest draft (argument :: rest) = Request.ofRest next rest := by
  have hattach : draft.attach setting text = .ok (settled.record (.value setting text)) := by
    rw [Draft.attach, h.settle_eq]
    exact assign_of_fits hfits hlacks
  refine ⟨_, chose_of_pending_eq ((pending_record _).trans h.pending_eq), fun rest => ?_⟩
  exact ofRest_cons (by rw [hread, hattach]; rfl)

/-- **The arguments of a choice record it, whatever comes after them.** -/
theorem exists_chose_of_spelling (hspelling : Spelling choice arguments) (hfits : choice.Fits)
    (hlacks : settled.Lacks choice) (h : draft.Chose settled) :
    ∃ next : Draft, next.Chose (settled.record choice) ∧
      ∀ rest, Request.ofRest draft (arguments ++ rest) = Request.ofRest next rest := by
  cases hspelling with
  | longApart setting hapart =>
    exact exists_chose_of_apart h hapart hfits hlacks
      fun _ => readArgument_long (ofText_longOption setting)
  | longAttached setting text =>
    exact exists_chose_of_attached h hfits hlacks
      fun _ => readArgument_long (ofText_longOption_append setting text)
  | shortApart hname hapart =>
    exact exists_chose_of_apart h hapart hfits hlacks fun _ => readArgument_short hname
  | @shortAttached setting name text hname hne hequals =>
    have hvalue : shortValue text = text := by
      unfold shortValue
      split
      · exact absurd rfl hequals
      · rfl
    refine exists_chose_of_attached h hfits hlacks fun _ => ?_
    rw [readArgument_short hname, if_neg (by simpa using hne), hvalue]
  | shortEquals hname text =>
    exact exists_chose_of_attached h hfits hlacks fun _ => readArgument_short hname
  | hexdump =>
    have hask : draft.askHexdump = .ok (settled.record .hexdump) := by
      have hnot : settled.hexdump = false := hlacks
      rw [Draft.askHexdump, h.settle_eq]
      simp [bind, Except.bind, hnot]
      rfl
    refine ⟨_, chose_of_pending_eq ((pending_record _).trans h.pending_eq), fun rest => ?_⟩
    refine ofRest_cons ?_
    have hname : Argument.ofText (longOption hexdumpName) = .long hexdumpName none := by decide
    unfold Draft.readArgument
    rw [hname]
    change Progress.more <$> draft.askHexdump = _
    rw [hask]
    rfl

/-! ## Reading all choices -/

/-- Choices for different options may change places. -/
theorem record_comm {other : Choice} (hne : choice.option ≠ other.option) (draft : Draft) :
    (draft.record choice).record other = (draft.record other).record choice := by
  rcases choice with ⟨_ | _ | _ | _ | _, _⟩ | _ <;> rcases other with ⟨_ | _ | _ | _ | _, _⟩ | _ <;>
    first | rfl | exact absurd rfl hne

/-- `(settled.record choice).Lacks other`: a choice for one option leaves the others as they are. -/
theorem lacks_record {other : Choice} (hne : choice.option ≠ other.option)
    (h : settled.Lacks other) : (settled.record choice).Lacks other := by
  rcases choice with ⟨_ | _ | _ | _ | _, _⟩ | _ <;> rcases other with ⟨_ | _ | _ | _ | _, _⟩ | _ <;>
    first | exact h | exact absurd rfl hne

/-- `draft.finish = settled.finish`: what is asked for in the end is what was chosen. -/
theorem finish_eq (h : draft.Chose settled) : draft.finish = settled.finish := by
  rw [Draft.finish, Draft.finish, h.settle_eq, (chose_of_pending_eq h.pending_eq).settle_eq]

/-- **Arguments record their choices one after the other.** -/
theorem ofRest_of_spelled (h : Spelled choices arguments) (hfits : ∀ choice ∈ choices, choice.Fits)
    (hnodup : (choices.map Choice.option).Nodup) (hlacks : ∀ choice ∈ choices, settled.Lacks choice)
    (hdraft : draft.Chose settled) :
    Request.ofRest draft arguments =
      .compile <$> (choices.foldl Draft.record settled).finish := by
  induction h generalizing draft settled with
  | nil => rw [Request.ofRest, finish_eq hdraft, List.foldl_nil]
  | @cons choice choices front back first _ ih =>
    rw [List.forall_mem_cons] at hfits hlacks
    rw [List.map_cons, List.nodup_cons] at hnodup
    obtain ⟨next, hnext, hread⟩ := exists_chose_of_spelling first hfits.1 hlacks.1 hdraft
    -- the other options are not those of the first choice, so they still lack a value
    have hothers : ∀ other ∈ choices, (settled.record choice).Lacks other := by
      intro other hother
      have hne : choice.option ≠ other.option := by
        intro heq
        rw [heq] at hnodup
        exact hnodup.1 (List.mem_map_of_mem hother)
      exact lacks_record hne (hlacks.2 other hother)
    rw [hread, List.foldl_cons]
    exact ih hfits.2 hnodup.2 hothers hnext

/-- Choices for different options are recorded alike in any order. -/
theorem foldl_record_perm {others : List Choice} (hperm : choices.Perm others)
    (hnodup : (choices.map Choice.option).Nodup) (draft : Draft) :
    choices.foldl Draft.record draft = others.foldl Draft.record draft := by
  refine hperm.foldl_eq' ?_ draft
  intro choice hchoice other hother draft
  by_cases heq : choice = other
  · rw [heq]
  · have hne : choice.option ≠ other.option :=
      fun hsame => heq (List.inj_on_of_nodup_map hnodup hchoice hother hsame)
    exact record_comm hne draft

/-- `assignment.choices.foldl Draft.record {} = assignment.draft`: the choices of an assignment make
it a draft. -/
theorem foldl_record_choices (assignment : Assignment) :
    assignment.choices.foldl Draft.record {} = assignment.draft := by
  obtain ⟨source, size, bytes, output, separator, comment, hexdump, -, -⟩ := assignment
  cases source <;> cases output <;> cases separator <;> cases comment <;> cases hexdump <;> rfl

/-- `assignment.draft.finish = .ok assignment.options`: the draft of an assignment asks for its
options. -/
theorem finish_draft (assignment : Assignment) :
    assignment.draft.finish = .ok assignment.options := by
  have hsize : assignment.draft.size = some assignment.bytes := by
    rw [Assignment.draft, assignment.parse_size]
    rfl
  have hsettle : assignment.draft.settle = .ok assignment.draft := rfl
  rw [Draft.finish, hsettle]
  simp only [bind, Except.bind, hsize]
  rfl

/-- **Arguments that spell an assignment ask for its options.** -/
theorem ofArguments_of_spells {assignment : Assignment} (h : assignment.Spells arguments) :
    Request.ofArguments arguments = .ok (.compile assignment.options) := by
  obtain ⟨choices, hperm, hspelled⟩ := h
  have hfits : ∀ choice ∈ choices, choice.Fits :=
    fun choice hchoice => Assignment.fits_of_mem_choices (hperm.mem_iff.mp hchoice)
  have hnodup : (choices.map Choice.option).Nodup :=
    (hperm.map Choice.option).nodup_iff.mpr assignment.nodup_option_choices
  have hlacks : ∀ choice ∈ choices, Draft.Lacks {} choice := by
    rintro (⟨_ | _ | _ | _ | _, _⟩ | _) - <;> rfl
  rw [Request.ofArguments, ofRest_of_spelled hspelled hfits hnodup hlacks (chose_of_pending_eq rfl),
    foldl_record_perm hperm hnodup, foldl_record_choices, finish_draft]
  rfl

/-- **The order of the options, and the form that each of them is given in, make no difference to a
run**, and neither does it whether an option has its default or is left out. All arguments that
spell an assignment (`assignment.Spells arguments`), or one with the same `withDefaults`, ask for
`assignment.options`, and leave the same on the screen and the same files. -/
theorem runIn_eq_of_spells {assignment other : Assignment} {otherArguments : List Text}
    (hsame : assignment.withDefaults = other.withDefaults) (h : assignment.Spells arguments)
    (hother : other.Spells otherArguments) (allocator : Allocator) (standardInput : Bytes)
    (files : FileSystem) :
    Request.ofArguments arguments = .ok (.compile assignment.options) ∧
      runIn allocator standardInput arguments files =
        runIn allocator standardInput otherArguments files := by
  have hrequest := ofArguments_of_spells h
  have hotherRequest := ofArguments_of_spells hother
  rw [← other.options_withDefaults, ← hsame, assignment.options_withDefaults] at hotherRequest
  refine ⟨hrequest, ?_⟩
  rw [runIn, runIn, run, run, hrequest, hotherRequest]

/-- Two command lines for a hexdump, in different orders and forms. The first one gives the default
separator and the second one the default comment marker; the path of the image looks like an
option. -/
theorem runIn_eq_of_spells_reordered :
    let assignment : Assignment :=
      { size := "0x8000".toList, bytes := 0x8000, output := some "-s=9".toList,
        separator := some ',', hexdump := true, parse_size := by decide, output_ne := by decide }
    let other : Assignment :=
      { assignment with separator := none, comment := some ';' }
    let arguments := ["--hexdump", "-o=-s=9", "-s", "0x8000", "--sep", ","].map String.toList
    let otherArguments := ["--size=0x8000", "--comment=;", "--output=-s=9", "--hexdump"].map
      String.toList
    assignment.withDefaults = other.withDefaults ∧ assignment.Spells arguments ∧
      other.Spells otherArguments ∧ ∀ files : FileSystem,
        Request.ofArguments arguments = .ok (.compile assignment.options) ∧
          runIn .addressSpace [] arguments files = runIn .addressSpace [] otherArguments files := by
  intro assignment other arguments otherArguments
  have hsame : assignment.withDefaults = other.withDefaults := rfl
  have h : assignment.Spells arguments :=
    ⟨[.hexdump, .value .output "-s=9".toList, .value .size "0x8000".toList,
      .value .separator [',']], by decide,
      .cons .hexdump (.cons (.shortEquals rfl _) (.cons (.shortApart rfl (Or.inr (by decide)))
        (.cons (.longApart .separator (Or.inr (by decide))) .nil)))⟩
  have hother : other.Spells otherArguments :=
    ⟨[.value .size "0x8000".toList, .value .comment [';'], .value .output "-s=9".toList, .hexdump],
      by decide,
      .cons (.longAttached .size _) (.cons (.longAttached .comment _)
        (.cons (.longAttached .output _) (.cons .hexdump .nil)))⟩
  exact ⟨hsame, h, hother, fun files => runIn_eq_of_spells hsame h hother .addressSpace [] files⟩

end RomCompiler.CommandLine
