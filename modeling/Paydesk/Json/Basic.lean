/-
**Document values.**

A document is built from nulls, flags, whole numbers, doubles, texts, lists and objects. An object
keeps its fields in the order they were written; of fields with one name the last one counts.

* `Json.field?`: the value of a field of an object;
* `Json.fields?`: the fields of an object by ascending name, each name once.
-/

import Paydesk.Binary64.Basic
import Paydesk.Dict

namespace Paydesk

/-- A document value. -/
inductive Json where
  | null
  | bool (flag : Bool)
  | int (number : Int)
  | float (number : Binary64)
  | text (text : String)
  | list (items : List Json)
  | object (fields : List (String × Json))

namespace Json

instance : Inhabited Json := ⟨null⟩

/-- The value of a field of an object. -/
def field? (json : Json) (name : String) : Option Json :=
  match json with
  | .object fields => (fields.reverse.find? (·.1 == name)).map (·.2)
  | _ => none

/-- The fields of an object by ascending name. -/
def fields? (json : Json) : Option (Dict String Json) :=
  match json with
  | .object fields => some (Dict.ofList fields)
  | _ => none

def isNull (json : Json) : Bool :=
  match json with
  | .null => true
  | _ => false

/-- The text of a text value. -/
def text? (json : Json) : Option String :=
  match json with
  | .text content => some content
  | _ => none

end Json

end Paydesk
