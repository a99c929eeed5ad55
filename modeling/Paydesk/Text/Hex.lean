/-
**Bytes in hexadecimal text.**

Every byte is written in two digits, small letters for the digits above nine; a reader takes
capitals too.

* `hexOfBytes`, `bytesOfHex?`: bytes and their text;
* `isHexDigit`: the digits that a writer uses.
-/

namespace Paydesk.Text

/-- The digit of a value below 16. -/
def hexDigit (value : Nat) : Char :=
  Char.ofNat (if value < 10 then 0x30 + value else 0x57 + value)

/-- Whether a character is a digit `0` to `9` or a letter `a` to `f`. -/
def isHexDigit (char : Char) : Bool :=
  ('0' ≤ char && char ≤ '9') || ('a' ≤ char && char ≤ 'f')

/-- The value of a hexadecimal digit in either case. -/
def hexValue? (char : Char) : Option Nat :=
  if '0' ≤ char ∧ char ≤ '9' then some (char.toNat - 0x30)
  else if 'a' ≤ char ∧ char ≤ 'f' then some (char.toNat - 0x57)
  else if 'A' ≤ char ∧ char ≤ 'F' then some (char.toNat - 0x37)
  else none

/-- The text of a list of bytes. -/
def hexOfBytes (bytes : List UInt8) : String :=
  String.ofList (bytes.flatMap fun byte => [hexDigit (byte.toNat / 16), hexDigit (byte.toNat % 16)])

/-- The bytes of pairs of digits. -/
def bytesOfPairs? : List Char → Option (List UInt8)
  | [] => some []
  | high :: low :: rest => do
    let byte := UInt8.ofNat ((← hexValue? high) * 16 + (← hexValue? low))
    return byte :: (← bytesOfPairs? rest)
  | [_] => none

/-- The bytes of a text. -/
def bytesOfHex? (text : String) : Option (List UInt8) := bytesOfPairs? text.toList

end Paydesk.Text
