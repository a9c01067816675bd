/-!
# Ranges of characters

Classes of characters are given by tables of ranges of code points.

## Main definitions

* `Text.CodeRange` — the code points from one to another
* `Text.within` — whether a character lies in one of several ranges
-/

namespace Faceted.Text

/-- The code points from `first` to `last`, both included. -/
structure CodeRange where
  first : Nat
  last : Nat
deriving DecidableEq, Repr

/-- Whether the range holds a code point. -/
def CodeRange.holds (range : CodeRange) (code : Nat) : Bool :=
  range.first ≤ code && code ≤ range.last

/-- Whether a character lies in one of the ranges. -/
def within (ranges : List CodeRange) (c : Char) : Bool :=
  ranges.any fun range => range.holds c.toNat

end Faceted.Text
