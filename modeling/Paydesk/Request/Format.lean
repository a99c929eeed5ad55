/-
**Forms of request fields.**

Currency codes are three ASCII letters and region codes two. An address of the web names a scheme,
a host, perhaps a number after a colon, and perhaps a path, query or fragment.

* `isCurrencyCode`, `isRegionCode`: the codes;
* `isUrl`: the addresses.
-/

import Paydesk.Text.Ascii
import Paydesk.Text.Blank
import Paydesk.Text.DecimalDigit

namespace Paydesk

/-- Whether a text is so many ASCII letters. -/
def isLetterCode (length : Nat) (text : String) : Bool :=
  text.toList.length == length && text.toList.all Text.isLetter

/-- Whether a text is a currency code. -/
def isCurrencyCode (text : String) : Bool := isLetterCode 3 text

/-- Whether a text is a region code. -/
def isRegionCode (text : String) : Bool := isLetterCode 2 text

/-- Whether a character is a letter of a scheme; letters match whatever folds to them. -/
def matchesLetter (letter char : Char) : Bool :=
  char == letter || char == letter.toUpper || (letter == 's' && char == 'ſ')

/-- What follows the scheme and its slashes. -/
def afterScheme? (chars : List Char) : Option (List Char) :=
  if ("http".toList.zip chars).all (fun (letter, char) => matchesLetter letter char)
      && 4 ≤ chars.length then
    match chars.drop 4 with
    | ':' :: '/' :: '/' :: rest => some rest
    | first :: ':' :: '/' :: '/' :: rest => if matchesLetter 's' first then some rest else none
    | _ => none
  else none

/-- Whether a character ends a host. -/
def endsHost (char : Char) : Bool := Text.isBlank char || "/?#:@".toList.contains char

/-- Whether characters are a path, a query or a fragment without white space, or nothing. -/
def isTail : List Char → Bool
  | [] => true
  | first :: rest => "/?#".toList.contains first && rest.all (!Text.isBlank ·)

/-- Whether characters are a colon and a number of at most five digits, if any, and a tail. -/
def isNumberAndTail : List Char → Bool
  | ':' :: rest =>
    let digits := rest.takeWhile Text.isDecimalDigit
    1 ≤ digits.length && digits.length ≤ 5 && isTail (rest.drop digits.length)
  | chars => isTail chars

/-- Whether a text is an absolute address of the web. -/
def isUrl (text : String) : Bool :=
  match afterScheme? text.toList with
  | some rest =>
    let host := rest.takeWhile (!endsHost ·)
    !host.isEmpty && isNumberAndTail (rest.drop host.length)
  | none => false

end Paydesk
