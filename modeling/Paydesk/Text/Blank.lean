/-
**White space.**

The characters with the property White_Space, which includes line breaks and the no-break space.

* `isBlank`: the property;
* `trimBlank`: a text without white space at its ends.
-/

namespace Paydesk.Text

/-- Whether a character is white space. -/
def isBlank (char : Char) : Bool :=
  let code := char.toNat
  (9 ≤ code && code ≤ 13) || code == 0x20 || code == 0x85 || code == 0xA0 || code == 0x1680
    || (0x2000 ≤ code && code ≤ 0x200A) || code == 0x2028 || code == 0x2029 || code == 0x202F
    || code == 0x205F || code == 0x3000

/-- Characters without white space at both ends. -/
def trimChars (chars : List Char) : List Char :=
  ((chars.dropWhile isBlank).reverse.dropWhile isBlank).reverse

/-- A text without white space at its ends. -/
def trimBlank (text : String) : String := String.ofList (trimChars text.toList)

end Paydesk.Text
