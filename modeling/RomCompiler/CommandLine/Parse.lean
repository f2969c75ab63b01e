import RomCompiler.CommandLine.Arguments

/-! # Reading the command line

Arguments are read from left to right. An option that takes a value and has none attached waits for
the next argument. What an option was given is judged when the next option is reached, or the end,
so an argument that there is no use for is reported before a bad value right in front of it.
- **`Draft`** — what the arguments so far have chosen, with the option that is not yet judged.
- **`Draft.settle`** — judges that option.
- **`Request`** — what the arguments ask for in the end.
- **`Request.ofArguments`** — the reading of all arguments. -/

namespace RomCompiler.CommandLine

/-- **All that the command line says about a compilation.** What a `Draft` leaves out has its
default here. -/
structure Options where
  /-- Where the listing is read from, if there is one. -/
  source : Option Text
  /-- The size of the image. -/
  size : BitVec 64
  /-- The path of the image. -/
  output : Text
  /-- The character between two bytes. -/
  separator : Char
  /-- The character that opens a comment. -/
  comment : Char
  /-- Whether the image is shown in the end. -/
  hexdump : Bool
  deriving DecidableEq, Repr

/-- The path of the image where no other one is given: `rom.bin`. -/
def defaultOutput : Text := "rom.bin".toList

/-- **What some arguments have chosen.** -/
structure Draft where
  /-- Where the listing is read from. -/
  source : Option Text := none
  /-- The size of the image. -/
  size : Option (BitVec 64) := none
  /-- The path of the image. -/
  output : Option Text := none
  /-- The character between two bytes. -/
  separator : Option Char := none
  /-- The character that opens a comment. -/
  comment : Option Char := none
  /-- Whether a hexdump was asked for. -/
  hexdump : Bool := false
  /-- The last option, if it is not judged yet, with the argument that came as its value. -/
  pending : Option (Setting × Option Text) := none
  deriving DecidableEq, Repr

namespace Draft

/-- `draft.has setting`: whether an option has a value already. -/
def has (draft : Draft) : Setting → Bool
  | .source => draft.source.isSome
  | .size => draft.size.isSome
  | .output => draft.output.isSome
  | .separator => draft.separator.isSome
  | .comment => draft.comment.isSome

/-- The character of a value that must be just one; any other value is an `invalidCharacter`. -/
def character (setting : Setting) : Text → Except UsageFault Char
  | [c] => .ok c
  | value => .error (.invalidCharacter setting value)

/-- `draft.store setting value`: the draft with the value of an option, if the option can have that
value. A size is read by `Size.parse`. -/
def store (draft : Draft) (setting : Setting) (value : Text) : Except UsageFault Draft :=
  match setting with
  | .source => .ok { draft with source := some value }
  | .size =>
    match Size.parse value with
    | .ok size => .ok { draft with size := some size }
    | .error fault => .error (.invalidSize fault)
  | .output =>
    if value.isEmpty then .error (.missingValue .output)
    else .ok { draft with output := some value }
  | .separator => do return { draft with separator := some (← character .separator value) }
  | .comment => do return { draft with comment := some (← character .comment value) }

/-- `draft.assign setting value`: the draft with a value for an option that has none; an option that
has one is `repeated`. -/
def assign (draft : Draft) (setting : Setting) (value : Text) : Except UsageFault Draft :=
  if draft.has setting then .error (.repeated setting.shown) else draft.store setting value

/-- `draft.settle`: judges the last option, if that is still to be done. -/
def settle (draft : Draft) : Except UsageFault Draft :=
  match draft.pending with
  | none => .ok draft
  | some (setting, none) => .error (.missingValue setting)
  | some (setting, some value) => { draft with pending := none }.assign setting value

/-- `draft.await setting`: the draft after an option that waits for its value, with that option
`pending`. -/
def await (draft : Draft) (setting : Setting) : Except UsageFault Draft := do
  return { ← draft.settle with pending := some (setting, none) }

/-- `draft.attach setting value`: the draft after an option with its value attached, which is judged
at once. -/
def attach (draft : Draft) (setting : Setting) (value : Text) : Except UsageFault Draft := do
  (← draft.settle).assign setting value

/-- The draft after the option that asks for a hexdump. -/
def askHexdump (draft : Draft) : Except UsageFault Draft := do
  let draft ← draft.settle
  if draft.hexdump then .error (.repeated (String.ofList (longOption hexdumpName)))
  else return { draft with hexdump := true }

/-- `draft.take text`: the draft after a text that is no option, which is the value of the option
that is `pending`. Without such an option it is an `unexpectedArgument`. -/
def take (draft : Draft) (text : Text) : Except UsageFault Draft :=
  match draft.pending with
  | some (setting, none) => .ok { draft with pending := some (setting, some text) }
  | _ => .error (.unexpectedArgument text)

/-- **The options chosen when there are no more arguments**, with the defaults for those that were
not. The size has no default: without it there is a `missingSize`. -/
def finish (draft : Draft) : Except UsageFault Options := do
  let draft ← draft.settle
  match draft.size with
  | none => .error .missingSize
  | some size =>
    return {
      source := draft.source
      size := size
      output := draft.output.getD defaultOutput
      separator := draft.separator.getD Listing.Markers.defaultSeparator
      comment := draft.comment.getD Listing.Markers.defaultComment
      hexdump := draft.hexdump }

end Draft

/-- **What the arguments ask for.** -/
inductive Request where
  /-- The description of the command line. -/
  | help
  /-- A compilation. -/
  | compile (options : Options)
  deriving DecidableEq, Repr

/-- **How the reading goes on after an argument**: with a `Draft`, or not at all once help is asked
for. -/
inductive Progress where
  /-- Help was asked for: the other arguments do not count any more. -/
  | help
  /-- There may be more arguments. -/
  | more (draft : Draft)
  deriving DecidableEq, Repr

/-- `draft.readLong name value`: how the reading goes on after an option with a long name. -/
def Draft.readLong (draft : Draft) (name : Text) (value : Option Text) :
    Except UsageFault Progress :=
  match Setting.ofLong? name, value with
  | some setting, some value => .more <$> draft.attach setting value
  | some setting, none => .more <$> draft.await setting
  | none, value =>
    if name = hexdumpName ∨ name = helpName then
      match value with
      | some value => .error (.unexpectedValue name value)
      | none =>
        if name = hexdumpName then .more <$> draft.askHexdump
        else (fun _ => .help) <$> draft.settle
    else .error (.unexpectedArgument (longOption name))

/-- A value without the `=` that may stand between it and a short name. -/
def shortValue : Text → Text
  | '=' :: value => value
  | value => value

/-- `draft.readShort name rest`: how the reading goes on after an option with a short name and the
rest of its argument, which is the value of an option that takes one. -/
def Draft.readShort (draft : Draft) (name : Char) (rest : Text) : Except UsageFault Progress :=
  match Setting.ofShort? name with
  | some setting =>
    .more <$> if rest.isEmpty then draft.await setting else draft.attach setting (shortValue rest)
  | none =>
    if name = 'h' then (fun _ => .help) <$> draft.settle
    else .error (.unexpectedArgument ['-', name])

/-- **One step of the reading**: how it goes on after one argument, with `rest` after it. -/
def Draft.readArgument (draft : Draft) (argument : Text) (rest : List Text) :
    Except UsageFault Progress :=
  match Argument.ofText argument, rest with
  | .endOfOptions, [] => .ok (.more draft)
  | .endOfOptions, other :: _ => .error (.unexpectedArgument other)
  | .long name value, _ => draft.readLong name value
  | .short name value, _ => draft.readShort name value
  | .plain text, _ => .more <$> draft.take text

/-- What is asked for by the arguments that follow those of a draft, by one `Draft.readArgument`
after the other. -/
def Request.ofRest (draft : Draft) : List Text → Except UsageFault Request
  | [] => .compile <$> draft.finish
  | argument :: rest =>
    match draft.readArgument argument rest with
    | .error fault => .error fault
    | .ok .help => .ok .help
    | .ok (.more next) => Request.ofRest next rest

/-- `Request.ofArguments arguments`: what some arguments ask for. -/
def Request.ofArguments (arguments : List Text) : Except UsageFault Request :=
  Request.ofRest {} arguments

end RomCompiler.CommandLine
