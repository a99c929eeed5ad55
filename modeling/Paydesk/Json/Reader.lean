/-
**Reading documents.**

A document is read from its characters by descent; every reader gives the value and what is left of
the text. A budget of one more than the characters bounds the descent, since each level uses up at
least one character.

* `Json.read?`: the value of a text that is one document and white space around it.
-/

import Paydesk.Json.Number
import Paydesk.Text.Hex

namespace Paydesk.Json

/-- Characters without the document's white space before them. -/
def skipSpace (chars : List Char) : List Char :=
  chars.dropWhile fun char => char == ' ' || char == '\n' || char == '\t' || char == '\r'

/-- A code unit of four hexadecimal digits. -/
def readUnit? : List Char → Option (Nat × List Char)
  | first :: second :: third :: fourth :: rest => do
    let value := (((← Text.hexValue? first) * 16 + (← Text.hexValue? second)) * 16
      + (← Text.hexValue? third)) * 16 + (← Text.hexValue? fourth)
    return (value, rest)
  | _ => none

/-- The character of a code point, if there is one. -/
def charOf? (code : Nat) : Option Char :=
  if code.isValidChar then some (Char.ofNat code) else none

/-- A character written as one code unit or a surrogate pair of them, after its first mark. -/
def readEscapedUnits? (chars : List Char) : Option (Char × List Char) := do
  let (first, rest) ← readUnit? chars
  if 0xD800 ≤ first ∧ first < 0xDC00 then
    match rest with
    | '\\' :: 'u' :: more =>
      let (second, tail) ← readUnit? more
      if 0xDC00 ≤ second ∧ second < 0xE000 then
        let char ← charOf? (0x10000 + (first - 0xD800) * 0x400 + (second - 0xDC00))
        return (char, tail)
      else none
    | _ => none
  else
    return (← charOf? first, rest)

/-- The character of an escape, after the backslash. -/
def readEscape? : List Char → Option (Char × List Char)
  | '"' :: rest => some ('"', rest)
  | '\\' :: rest => some ('\\', rest)
  | '/' :: rest => some ('/', rest)
  | 'b' :: rest => some ('\x08', rest)
  | 'f' :: rest => some ('\x0c', rest)
  | 'n' :: rest => some ('\n', rest)
  | 'r' :: rest => some ('\r', rest)
  | 't' :: rest => some ('\t', rest)
  | 'u' :: rest => readEscapedUnits? rest
  | _ => none

/-- The characters of a text after its opening quote, collected backwards. -/
def readText? : Nat → List Char → List Char → Option (String × List Char)
  | 0, _, _ => none
  | _ + 1, _, [] => none
  | _ + 1, done, '"' :: rest => some (String.ofList done.reverse, rest)
  | budget + 1, done, '\\' :: rest => do
    let (char, tail) ← readEscape? rest
    readText? budget (char :: done) tail
  | budget + 1, done, char :: rest =>
    if char.toNat < 0x20 then none else readText? budget (char :: done) rest

/-- Digits and what follows them. -/
def spanDigits (chars : List Char) : List Char × List Char :=
  (chars.takeWhile Text.isDigit, chars.dropWhile Text.isDigit)

/-- The digits after a point, if there is a point. -/
def readFraction? : List Char → Option (Option (List Char) × List Char)
  | '.' :: rest =>
    let (digits, tail) := spanDigits rest
    if digits.isEmpty then none else some (some digits, tail)
  | chars => some (none, chars)

/-- The exponent after its mark and sign. -/
def readPower? (negative : Bool) (chars : List Char) : Option (Option Int × List Char) :=
  let (digits, tail) := spanDigits chars
  if digits.isEmpty then none
  else
    (Text.natOfDigits? digits).map fun power =>
      (some (if negative then -(power : Int) else power), tail)

/-- The exponent, if there is one. -/
def readExponent? : List Char → Option (Option Int × List Char)
  | char :: rest =>
    if char == 'e' || char == 'E' then
      match rest with
      | '-' :: digits => readPower? true digits
      | '+' :: digits => readPower? false digits
      | digits => readPower? false digits
    else some (none, char :: rest)
  | [] => some (none, [])

/-- A number after its sign. -/
def readMagnitude? (negative : Bool) (chars : List Char) : Option (Json × List Char) := do
  let (whole, rest) := spanDigits chars
  if whole.isEmpty || (1 < whole.length && whole.head? == some '0') then none
  else
    let (fraction, rest) ← readFraction? rest
    let (exponent, rest) ← readExponent? rest
    return (← Numeral.value? ⟨negative, whole, fraction, exponent⟩, rest)

/-- A number. -/
def readNumber? : List Char → Option (Json × List Char)
  | '-' :: rest => readMagnitude? true rest
  | chars => readMagnitude? false chars

mutual

/-- A value and what follows it. -/
def readValue? : Nat → List Char → Option (Json × List Char)
  | 0, _ => none
  | budget + 1, chars =>
    match skipSpace chars with
    | 'n' :: 'u' :: 'l' :: 'l' :: rest => some (.null, rest)
    | 't' :: 'r' :: 'u' :: 'e' :: rest => some (.bool true, rest)
    | 'f' :: 'a' :: 'l' :: 's' :: 'e' :: rest => some (.bool false, rest)
    | '"' :: rest => do
      let (content, tail) ← readText? (rest.length + 1) [] rest
      return (.text content, tail)
    | '[' :: rest =>
      match skipSpace rest with
      | ']' :: tail => some (.list [], tail)
      | more => do
        let (items, tail) ← readItems? budget more
        return (.list items, tail)
    | '\x7b' :: rest =>
      match skipSpace rest with
      | '\x7d' :: tail => some (.object [], tail)
      | more => do
        let (fields, tail) ← readFields? budget more
        return (.object fields, tail)
    | more => readNumber? more

/-- The items of a list up to its closing bracket. -/
def readItems? : Nat → List Char → Option (List Json × List Char)
  | 0, _ => none
  | budget + 1, chars => do
    let (item, rest) ← readValue? budget chars
    match skipSpace rest with
    | ',' :: more =>
      let (items, tail) ← readItems? budget more
      return (item :: items, tail)
    | ']' :: tail => return ([item], tail)
    | _ => none

/-- The fields of an object up to its closing brace. -/
def readFields? : Nat → List Char → Option (List (String × Json) × List Char)
  | 0, _ => none
  | budget + 1, chars =>
    match skipSpace chars with
    | '"' :: named => do
      let (name, rest) ← readText? (named.length + 1) [] named
      match skipSpace rest with
      | ':' :: valued =>
        let (value, rest) ← readValue? budget valued
        match skipSpace rest with
        | ',' :: more =>
          let (fields, tail) ← readFields? budget more
          return ((name, value) :: fields, tail)
        | '\x7d' :: tail => return ([(name, value)], tail)
        | _ => none
      | _ => none
    | _ => none

end

/-- The value of a text that is one document. -/
def read? (text : String) : Option Json := do
  let chars := text.toList
  let (value, rest) ← readValue? (2 * chars.length + 2) chars
  if (skipSpace rest).isEmpty then some value else none

end Paydesk.Json
