/-
**Ranges of code points.**

A property of characters is written as a list of ranges of code points.

* `CodeRange.holds`: whether a code point lies in one of the ranges.
-/

namespace Paydesk.Text

/-- The code points from the first to the last. -/
structure CodeRange where
  first : Nat
  last : Nat

/-- Whether a code point lies in one of the ranges. -/
def CodeRange.holds (ranges : List CodeRange) (code : Nat) : Bool :=
  ranges.any fun range => range.first ≤ code && code ≤ range.last

end Paydesk.Text
