/-! # Styles of terminal text

A message for a terminal sets off some of its parts by a style.
- **`Style`** — the ways to set a part off.
- **`Style.mark`** — a part between the sequences that begin and end its style. -/

namespace RomCompiler.Terminal

/-- **A way to set off a part of a message.** -/
inductive Style where
  /-- What is wrong. -/
  | faulty
  /-- What can be written as it stands. -/
  | literal
  deriving DecidableEq, Repr

/-- The number of a style in control sequences: faults are yellow (`33`), literals are bold (`1`).
-/
def Style.number : Style → String
  | .faulty => "33"
  | .literal => "1"

/-- **A part of a message in a style.** The sequence after it ends all styles. -/
def Style.mark (style : Style) (part : String) : String :=
  "\x1b[" ++ style.number ++ "m" ++ part ++ "\x1b[0m"

end RomCompiler.Terminal
