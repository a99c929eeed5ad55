/-
**Three truth values.**

A comparison with nothing is neither true nor false. A conjunction is false if either side is, and
otherwise true only if both are; a disjunction is the other way about.

* `Truth.and`, `Truth.or`: the connectives;
* `Truth.isYes`: what selects a row.
-/

namespace Paydesk

/-- Whether something is so, as far as it is known. -/
inductive Truth where
  | yes
  | no
  | unknown
  deriving DecidableEq

namespace Truth

/-- What is known for certain. -/
def ofBool (flag : Bool) : Truth := if flag then yes else no

/-- Whether both are so. -/
def and : Truth → Truth → Truth
  | no, _ | _, no => no
  | yes, yes => yes
  | _, _ => unknown

/-- Whether either is so. -/
def or : Truth → Truth → Truth
  | yes, _ | _, yes => yes
  | no, no => no
  | _, _ => unknown

/-- Whether something is known to be so. -/
def isYes (truth : Truth) : Bool := truth == yes

end Truth

end Paydesk
