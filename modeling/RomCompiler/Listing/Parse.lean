import RomCompiler.Listing.Line
import RomCompiler.Listing.Token
import RomCompiler.Log

/-! # Decoding a listing

A listing is decoded line by line and token by token, up to the first token that is not a byte.
- **`Listing.Fault`** — a token that is not a byte, with the number of its line.
- **`decodeLine`** — the bytes of one line.
- **`parse`** — the bytes of a listing, with a record for every line that was looked at. -/

namespace RomCompiler.Listing

/-- **A token that is not a byte**, with the line it is in and the `Token.Fault` it has. -/
structure Fault where
  /-- The number of the line it stands in, counted from one. -/
  line : Nat
  /-- The token, as it is written. -/
  token : Text
  /-- What is wrong with it. -/
  kind : Token.Fault
  deriving DecidableEq, Repr

/-- **A fault in words**, with the number of its line and its token as `Text.quoted` shows it. -/
def Fault.message (fault : Fault) : String :=
  "syntax error at line " ++ decimal fault.line ++ ": " ++ Text.quoted fault.token ++ " " ++
    fault.kind.reason

/-- `decodeToken number token`: the byte of a token in line `number`, by `Token.decode`. -/
def decodeToken (number : Nat) (token : Text) : Except Fault UInt8 :=
  (Token.decode token).mapError fun kind => ⟨number, token, kind⟩

/-- `decodeTokens number tokens`: the bytes of some tokens of line `number`, up to the first fault.
-/
def decodeTokens (number : Nat) (tokens : List Text) : Except Fault Bytes :=
  tokens.foldr
    (fun token rest => do
      let byte ← decodeToken number token
      (byte :: ·) <$> rest)
    (.ok [])

/-- **The bytes of the line with the given number**, out of `total` lines. The record comes before
the line is decoded, so a line with a fault is in the log too. -/
def decodeLine (markers : Markers) (total : Nat) (line : Text × Nat) : Logged Fault Bytes :=
  ⟨[.compilingLine line.2 total (Text.trim line.1)],
    decodeTokens line.2 (tokens markers (Text.trim line.1))⟩

/-- The bytes of numbered lines, out of `total` lines, up to the first fault, by one `decodeLine`
after the other. -/
def decodeLines (markers : Markers) (total : Nat) (lines : List (Text × Nat)) :
    Logged Fault Bytes :=
  lines.foldr
    (fun line rest => do
      let first ← decodeLine markers total line
      (first ++ ·) <$> rest)
    (pure [])

/-- `parse markers source`: the bytes of a listing, in the order in which they are written. -/
def parse (markers : Markers) (source : Text) : Logged Fault Bytes := do
  let bytes ← decodeLines markers (lines source).length ((lines source).zipIdx 1)
  Logged.note (.parsed bytes.length)
  return bytes

/-- `decodeTokens number [] = .ok []`: no tokens give no bytes. -/
@[simp] theorem decodeTokens_nil (number : Nat) : decodeTokens number [] = .ok [] := rfl

/-- `decodeLines markers total [] = pure []`: no lines give no bytes and no records. -/
@[simp] theorem decodeLines_nil (markers : Markers) (total : Nat) :
    decodeLines markers total [] = pure [] := rfl

/-- The first line is decoded before the others. -/
theorem decodeLines_cons (markers : Markers) (total : Nat) (line : Text × Nat)
    (rest : List (Text × Nat)) :
    decodeLines markers total (line :: rest) = (do
      let first ← decodeLine markers total line
      (first ++ ·) <$> decodeLines markers total rest) := rfl

end RomCompiler.Listing
