import RomCompiler.Image.Build
import RomCompiler.Listing.Parse

/-! # Compilation

An image is compiled from a listing: the listing is decoded, and the image is built around its
bytes. Without a listing there is no code, and the image is filler but for its reset vector.
- **`compile`** — the image of a listing.
- **`Compilation.Fault`** — a fault of either stage. -/

namespace RomCompiler

namespace Compilation

/-- **Why a listing has no image**: a `Listing.Fault` or an `Image.Fault`. -/
inductive Fault where
  /-- The listing has a token that is not a byte. -/
  | listing (fault : Listing.Fault)
  /-- There is no image of the wanted size around the code. -/
  | image (fault : Image.Fault)
  deriving DecidableEq, Repr

/-- A fault in words. -/
def Fault.message : Fault → String
  | .listing fault => fault.message
  | .image fault => fault.message

/-- **The code of a listing**, as `Listing.parse` reads it; there is none without a listing. -/
def code (markers : Listing.Markers) (source : Option Text) : Logged Listing.Fault Bytes :=
  match source with
  | some text => Listing.parse markers text
  | none => pure []

end Compilation

/-- `compile allocator markers source size`: the image of a listing. -/
def compile (allocator : Allocator) (markers : Listing.Markers) (source : Option Text)
    (size : Nat) : Logged Compilation.Fault Image := do
  let code ← (Compilation.code markers source).mapFault .listing
  (Image.build allocator code size).mapFault .image

end RomCompiler
