/-
**Passthrough parameters.**

Merchants and payment systems pass along flags, whole numbers, texts and other numbers by name. Up
to 64 names are taken when parameters are added one by one.

* `Params.set`: sets a parameter, if there is room;
* `Params.setJson`: the same for a document value, nulls passed over;
* `Params.texts`: all values in text;
* `Params.read?`, `Params.write`: their document;
* `Params.writeTagged`: a document that keeps the kind of every value.
-/

import Paydesk.Binary64.OfDecimal
import Paydesk.Json.Number
import Paydesk.Json.Record

namespace Paydesk

/-- The value of a parameter. -/
inductive Param where
  | flag (flag : Bool)
  | whole (number : Int64)
  | text (text : String)
  | number (number : Decimal)
  deriving DecidableEq

namespace Param

/-- A value in text. -/
def display : Param → String
  | flag value => if value then "true" else "false"
  | whole value => Text.writeInt value.toInt
  | text value => value
  | number value => value.write

/-- The value of a document; a number that is not whole is read by its digits. -/
def read? (json : Json) : Option Param :=
  match json with
  | .bool value => some (flag value)
  | .int value =>
    match Text.toInt64? value with
    | some short => some (whole short)
    | none => (Decimal.ofInt? value).map number
  | .float _ => (Json.readDecimal? json).map number
  | .text value => some (text value)
  | _ => none

/-- The document of a value; a number that is not whole becomes a double. -/
def write : Param → Json
  | flag value => .bool value
  | whole value => .int value.toInt
  | text value => .text value
  | number value => .float value.toBinary64

/-- The name of a value's kind. -/
def kind : Param → String
  | flag _ => "bool"
  | whole _ => "int"
  | text _ => "text"
  | number _ => "number"

/-- The document of a value in text under the name of its kind. -/
def writeTagged (param : Param) : Json := .object [(param.kind, .text param.display)]

end Param

/-- Why a parameter is refused. -/
inductive ParamError where
  | notPrimitive (key : String)
  | tooMany
  | outOfRange (key : String)
  deriving DecidableEq

/-- Parameters by name. -/
abbrev Params : Type := Dict String Param

namespace Params

/-- How many parameters there is room for. -/
def capacity : Nat := 64

end Params

/-- The name of an error. -/
def ParamError.name : ParamError → String
  | notPrimitive _ => "NotPrimitive"
  | tooMany => "TooManyEntries"
  | outOfRange _ => "NumberOutOfRange"

/-- The text of an error. -/
def ParamError.message : ParamError → String
  | notPrimitive key => s!"Parameter {key} is not a primitive value"
  | tooMany => s!"No more than {Params.capacity} passthrough parameters are accepted"
  | outOfRange key => s!"Parameter {key} is not a number that can be stored exactly"

namespace Params

/-- Sets a parameter, if it is there already or there is room. -/
def set (params : Params) (key : String) (value : Param) : Except ParamError Params :=
  if !params.contains key && capacity ≤ params.size then .error .tooMany
  else .ok (params.insert key value)

/-- Sets a parameter to a document value; null sets nothing. -/
def setJson (params : Params) (key : String) (json : Json) : Except ParamError Params :=
  match json with
  | .null => .ok params
  | .bool value => params.set key (.flag value)
  | .text value => params.set key (.text value)
  | .int value =>
    match Text.toInt64? value with
    | some short => params.set key (.whole short)
    | none =>
      match Decimal.ofInt? value with
      | some number => params.set key (.number number)
      | none => .error (.outOfRange key)
  | .float value =>
    match Decimal.read value.writeShort with
    | .ok number => params.set key (.number number)
    | .error _ => .error (.outOfRange key)
  | .list _ | .object _ => .error (.notPrimitive key)

/-- All values in text. -/
def texts (params : Params) : Dict String String := params.mapValues Param.display

/-- The parameters of a document. -/
def read? (json : Json) : Option Params := Json.readTextDict? Param.read? json

/-- The document of parameters. -/
def write (params : Params) : Json := Json.writeTextDict Param.write params

/-- The document of parameters with their kinds. -/
def writeTagged (params : Params) : Json := Json.writeTextDict Param.writeTagged params

end Params

end Paydesk
