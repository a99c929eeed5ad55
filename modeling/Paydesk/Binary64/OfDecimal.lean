/-
**Decimals as doubles.**

The whole part and the fraction are rounded on their own and added; the sum is then rounded to as
many places as the decimal has, each step in double precision.

* `Decimal.toBinary64`: the double that stands for a decimal.
-/

import Paydesk.Binary64.Basic
import Paydesk.Decimal.Basic

namespace Paydesk.Decimal

/-- The magnitude of a decimal with places as a double. -/
def fractionalMagnitude? (coefficient scale : Nat) : Option Binary64 := do
  let ten ← Binary64.powerOfTen? scale
  let whole ← Binary64.ofNat? (coefficient / Nat.pow 10 scale)
  let fraction ← (← Binary64.ofNat? (coefficient % Nat.pow 10 scale)).div? ten
  if fraction.isZero then some whole
  else (← (← whole.add? fraction).mul? ten).round.div? ten

/-- The double that stands for a decimal. -/
def toBinary64 (decimal : Decimal) : Binary64 :=
  let magnitude :=
    if decimal.scale = 0 then Binary64.ofNat? decimal.coefficient
    else fractionalMagnitude? decimal.coefficient decimal.scale
  match magnitude with
  | some number => if decimal.negative && !decimal.isZero then number.neg else number
  | none => .zero false

end Paydesk.Decimal
