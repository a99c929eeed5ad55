/-
**Writing documents.**

A document is written without spaces. Quotes, backslashes and control characters of a text are
escaped; every other character stands for itself.

* `Json.write`: the text of a document;
* `Json.writeText`: a text in quotes.
-/

import Paydesk.Json.Number
import Paydesk.Text.Hex

namespace Paydesk.Json

/-- The characters that stand for a character of a text. -/
def escape (char : Char) : List Char :=
  match char with
  | '"' => ['\\', '"']
  | '\\' => ['\\', '\\']
  | '\x08' => ['\\', 'b']
  | '\x0c' => ['\\', 'f']
  | '\n' => ['\\', 'n']
  | '\r' => ['\\', 'r']
  | '\t' => ['\\', 't']
  | char =>
    if char.toNat < 0x20 then
      ['\\', 'u', '0', '0', Text.hexDigit (char.toNat / 16), Text.hexDigit (char.toNat % 16)]
    else [char]

/-- A text in quotes. -/
def writeText (text : String) : String :=
  String.ofList ('"' :: (text.toList.flatMap escape ++ ['"']))

mutual

/-- The text of a document. -/
def write : Json → String
  | .null => "null"
  | .bool flag => if flag then "true" else "false"
  | .int number => Text.writeInt number
  | .float number => number.writeShort
  | .text content => writeText content
  | .list items => "[" ++ ",".intercalate (writeItems items) ++ "]"
  | .object fields => "\x7b" ++ ",".intercalate (writeFields fields) ++ "\x7d"

/-- The texts of the items of a list. -/
def writeItems : List Json → List String
  | [] => []
  | item :: rest => item.write :: writeItems rest

/-- The texts of the fields of an object. -/
def writeFields : List (String × Json) → List String
  | [] => []
  | (name, value) :: rest => (writeText name ++ ":" ++ value.write) :: writeFields rest

end

end Paydesk.Json
