import RomCompiler.Listing.Markers
import RomCompiler.Size
import RomCompiler.Terminal.Plain
import RomCompiler.Terminal.Style

/-! # The options of the command line

The command line names its options, and gives a value to those that take one, in several spellings
and in any order.
- **`Setting`** — the options that take a value, with their names.
- **`Argument`** — the form of one argument, read off its text alone.
- **`UsageFault`** — what is wrong with the arguments as a whole; `UsageFault.report` tells the user
  about it. -/

namespace RomCompiler.CommandLine

open Terminal

/-- **An option that takes a value.** -/
inductive Setting where
  /-- Where the listing is read from. -/
  | source
  /-- The size of the image. -/
  | size
  /-- The path of the image. -/
  | output
  /-- The character between two bytes. -/
  | separator
  /-- The character that opens a comment. -/
  | comment
  deriving DecidableEq, Repr

namespace Setting

/-- The long name of an option. -/
def long : Setting → String
  | .source => "source"
  | .size => "size"
  | .output => "output"
  | .separator => "sep"
  | .comment => "comment"

/-- **An option as messages show it**, with a place for its value: `--source <SOURCE>`. -/
def shown : Setting → String
  | .source => "--source <SOURCE>"
  | .size => "--size <SIZE>"
  | .output => "--output <OUTPUT>"
  | .separator => "--sep <SEP>"
  | .comment => "--comment <COMMENT>"

/-- **The option with a long name**: the one whose `Setting.long` it is, if there is one. -/
def ofLong? (name : Text) : Option Setting :=
  [.source, .size, .output, .separator, .comment].find? fun setting => setting.long.toList = name

/-- The option with a short name. -/
def ofShort? (name : Char) : Option Setting :=
  match name with
  | 'i' => some .source
  | 's' => some .size
  | 'o' => some .output
  | _ => none

end Setting

/-- The long name of the option that asks for a hexdump. -/
def hexdumpName : Text := "hexdump".toList

/-- The long name of the option that asks for help. -/
def helpName : Text := "help".toList

/-- A long option in the form that messages show, `--name`. -/
def longOption (name : Text) : Text := '-' :: '-' :: name

/-- **The form of an argument.** -/
inductive Argument where
  /-- The mark after which no argument is an option. -/
  | endOfOptions
  /-- An option with a long name, and the value attached to it. -/
  | long (name : Text) (value : Option Text)
  /-- An option with a short name, and what stands right after it. -/
  | short (name : Char) (rest : Text)
  /-- A text that is no option. -/
  | plain (text : Text)
  deriving DecidableEq, Repr

/-- The long name and the attached value of an argument after its two dashes: `name` or
`name=value`. -/
def Argument.ofLongText (text : Text) : Argument :=
  match text.dropWhile (· != '=') with
  | [] => .long text none
  | _ :: value => .long (text.takeWhile (· != '=')) (some value)

/-- **The form of an argument.** A dash alone is no option, so `-` is `Argument.plain`. -/
def Argument.ofText : Text → Argument
  | ['-', '-'] => .endOfOptions
  | '-' :: '-' :: text => .ofLongText text
  | '-' :: name :: rest => .short name rest
  | text => .plain text

/-- **What is wrong with the arguments.** -/
inductive UsageFault where
  /-- An option was given without its value. -/
  | missingValue (setting : Setting)
  /-- An option that can be given once was given again. -/
  | repeated (option : String)
  /-- The value of the size option is not a size. -/
  | invalidSize (fault : Size.Fault)
  /-- The value of an option is not just one character. -/
  | invalidCharacter (setting : Setting) (value : Text)
  /-- An option that takes no value was given one. -/
  | unexpectedValue (name value : Text)
  /-- There is no use for an argument. -/
  | unexpectedArgument (argument : Text)
  /-- The size, which there is no default for, was not given. -/
  | missingSize
  deriving DecidableEq, Repr

namespace UsageFault

/-- Why a text is not one character, for `UsageFault.invalidCharacter`. -/
def characterReason : Text → String
  | [] => "cannot parse char from empty string"
  | _ => "too many characters in string"

/-- **The message about a value that an option can't have**; `Style.faulty` marks the value, and
`Style.literal` the option. -/
def invalidValue (setting : Setting) (value : Text) (reason : String) : String :=
  "invalid value '" ++ Style.faulty.mark (String.ofList value) ++ "' for '" ++
    Style.literal.mark setting.shown ++ "': " ++ reason

/-- **A fault in words**, with what is wrong and what is asked for set off by styles. Of a fault
that takes more than one line this is the first: the list of the options that are missing is left
out. -/
def message : UsageFault → String
  | .missingValue setting =>
    "a value is required for '" ++ Style.faulty.mark setting.shown ++ "' but none was supplied"
  | .repeated option =>
    "the argument '" ++ Style.faulty.mark option ++ "' cannot be used multiple times"
  | .invalidSize fault => invalidValue .size fault.text fault.message
  | .invalidCharacter setting value => invalidValue setting value (characterReason value)
  | .unexpectedValue name value =>
    "unexpected value '" ++ Style.faulty.mark (String.ofList value) ++ "' for '" ++
      Style.literal.mark (String.ofList (longOption name)) ++ "' found; no more were expected"
  | .unexpectedArgument argument =>
    "unexpected argument '" ++ Style.faulty.mark (String.ofList argument) ++ "' found"
  | .missingSize => "the following required arguments were not provided:"

/-- **What a terminal is told about a fault**, in the parts that do not depend on the other options:
`message`, and the hint at `--help` in the end. The lines in between are left out, which are the
list of missing options, tips about similar options, and the usage line. -/
def notice (fault : UsageFault) : String :=
  "error: " ++ fault.message ++ "\n\nFor more information, try '" ++
    Style.literal.mark (String.ofList (longOption helpName)) ++ "'.\n"

/-- **What the user is told about a fault**: `notice` without terminal controls, since the faulty
arguments are a part of it and must not control the terminal that it may end up on. What `notice`
leaves out is left out here too. -/
def report (fault : UsageFault) : String := String.ofList (plain fault.notice.toList)

end UsageFault

end RomCompiler.CommandLine
