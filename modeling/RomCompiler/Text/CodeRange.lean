/-! # Ranges of code points

A property of characters is given as a table of ranges in ascending order.
- **`CodeRange`** — the code points from a first to a last one, both included.
- **`CodeRange.covers`** — membership in a table; the search stops at the first range beyond the
  point. -/

namespace RomCompiler

/-- **The code points from `first` to `last`**, both included. -/
structure CodeRange where
  /-- The least code point of the range. -/
  first : Nat
  /-- The greatest code point of the range. -/
  last : Nat
  deriving DecidableEq, Repr

namespace CodeRange

/-- **Whether a table of ranges in ascending order has `point` in one of them.** The search ends at
the first range that does not lie wholly below the point. -/
def covers : List CodeRange → Nat → Bool
  | [], _ => false
  | range :: rest, point =>
    if range.last < point then covers rest point else decide (range.first ≤ point)

end CodeRange

end RomCompiler
