/-
**Values in tables.**

A cell holds nothing, a whole number or a text. A column of texts is compared with the text of a
number; a column of numbers is compared with the number that a text spells, and lies below every
text that spells none. A comparison with nothing is unknown.

* `Cell.order?`: how a column's cell compares with a value.
-/

import Paydesk.Store.Literal
import Paydesk.Store.Truth

namespace Paydesk

/-- What a cell holds. -/
inductive Cell where
  | null
  | number (number : Int)
  | text (text : String)
  deriving DecidableEq

namespace Cell

/-- A text that may be missing. -/
def ofText? : Option String → Cell
  | some content => text content
  | none => null

/-- How a number compares with a text. -/
def orderText (value : Int) (content : String) : Ordering :=
  match Literal.read? content with
  | some literal => literal.order value
  | none => .lt

/-- How a column's cell compares with a value. -/
def order? : Cell → Cell → Option Ordering
  | null, _ | _, null => none
  | text first, text second => some (compare first second)
  | text first, number second => some (compare first (Text.writeInt second))
  | number first, number second => some (compare first second)
  | number first, text second => some (orderText first second)

/-- Whether a comparison comes out in a given way. -/
def test (accept : Ordering → Bool) (cell value : Cell) : Truth :=
  match cell.order? value with
  | some order => .ofBool (accept order)
  | none => .unknown

/-- Whether a cell equals a value. -/
def equals (cell value : Cell) : Truth := cell.test (· == .eq) value

/-- Whether a cell is one of some values. -/
def isIn (cell : Cell) (values : List Cell) : Truth :=
  values.foldr (fun value rest => (cell.equals value).or rest) .no

end Cell

end Paydesk
