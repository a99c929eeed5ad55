/-
**Small letters.**

A text is folded by putting every capital in small form. The capital sigma at the end of a word
becomes the final small sigma; the capital I with a dot becomes two characters.

* `endsWord`: whether a character at a place of a text ends a word;
* `fold`: a text in small letters.
-/

import Paydesk.Text.LetterCase

namespace Paydesk.Text

/-- Whether the first character that is not passed over is a letter with a case. -/
def startsCased (chars : List Char) : Bool :=
  match chars.dropWhile isCaseIgnorable with
  | first :: _ => isCased first
  | [] => false

/-- Whether a letter stands after a word's letters and before none; the letters before it are
listed backwards. -/
def endsWord (before after : List Char) : Bool := startsCased before && !startsCased after

/-- The small form of a character between others, those before it listed backwards. -/
def foldChar (before : List Char) (char : Char) (after : List Char) : List Char :=
  if char.toNat < 0x80 then [char.toLower]
  else if char == 'Σ' then [if endsWord before after then 'ς' else 'σ']
  else if char == 'İ' then ['i', '\u0307']
  else [(smallLetter? char).getD char]

/-- The small forms of characters, those before them listed backwards. -/
def foldChars (before : List Char) : List Char → List Char
  | [] => []
  | char :: after => foldChar before char after ++ foldChars (char :: before) after

/-- A text in small letters. -/
def fold (text : String) : String := String.ofList (foldChars [] text.toList)

/-- Whether a list of characters occurs in another. -/
def occursIn (pattern : List Char) : List Char → Bool
  | [] => pattern.isEmpty
  | char :: rest => pattern.isPrefixOf (char :: rest) || occursIn pattern rest

/-- Whether a text occurs in another. -/
def contains (text pattern : String) : Bool := occursIn pattern.toList text.toList

end Paydesk.Text
