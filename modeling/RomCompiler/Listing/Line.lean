import RomCompiler.Listing.Markers

/-! # The lines of a listing

A line ends with a line feed, with a carriage return, or with the two together as one end. What
comes after the last end is a line if there is anything.
- **`cutAtPairs`** — a text cut at every carriage return with a line feed after it.
- **`lines`** — the lines of a text: the pieces between pairs, each cut again at every single
  carriage return and line feed.
- **`body`**, **`tokens`** — what stands before the comment of a line, and the texts between its
  separators. -/

namespace RomCompiler.Listing

/-- Whether a character ends a line by itself: a carriage return or a line feed. -/
def isLineEnd (c : Char) : Bool := c == '\r' || c == '\n'

/-- `cutAtPair c pieces`: puts a character in front of a text that is cut at its pairs. A carriage
return in front of a line feed makes one more pair, which is cut out. -/
def cutAtPair (c : Char) (pieces : List Text) : List Text :=
  match c, pieces with
  | '\r', ('\n' :: piece) :: rest => [] :: piece :: rest
  | c, piece :: rest => (c :: piece) :: rest
  | c, [] => [[c]]

/-- `cutAtPairs text`: the text cut at every carriage return with a line feed after it. -/
def cutAtPairs (text : Text) : List Text := text.foldr cutAtPair [[]]

/-- `dropFinalEmpty pieces`: the pieces without the last one, if that is empty. -/
def dropFinalEmpty (pieces : List Text) : List Text :=
  if pieces.getLast? = some [] then pieces.dropLast else pieces

/-- `lines text`: the lines of a text, without their ends. -/
def lines (text : Text) : List Text :=
  dropFinalEmpty ((cutAtPairs text).flatMap (List.splitOnP isLineEnd))

/-- `body markers line`: the part of a line before its comment, without blanks at its ends. -/
def body (markers : Markers) (line : Text) : Text :=
  Text.trim (line.takeWhile (· != markers.comment))

/-- `tokens markers line`: the texts between the separators of a line, without blanks at their ends;
those of which nothing is left are passed over. -/
def tokens (markers : Markers) (line : Text) : List Text :=
  (((body markers line).splitOn markers.separator).map Text.trim).filter (!·.isEmpty)

/-- `cutAtPairs [] = [[]]`: the empty text has one piece between pairs. -/
@[simp] theorem cutAtPairs_nil : cutAtPairs [] = [[]] := rfl

/-- `cutAtPairs (c :: text) = cutAtPair c (cutAtPairs text)`: the pieces of a text that has one more
character in front. -/
theorem cutAtPairs_cons (c : Char) (text : Text) :
    cutAtPairs (c :: text) = cutAtPair c (cutAtPairs text) := rfl

/-- The empty text has no lines. -/
@[simp] theorem lines_nil : lines [] = [] := rfl

end RomCompiler.Listing
