/-
**Texts in quotes.**

A text is shown between quotes. Quotes, backslashes and the characters that show nothing are
escaped, the latter by their code points where they have no mark of their own.

* `quoteChar`: what stands for a character;
* `quote`: a text in quotes;
* `quoteAll`: a list of texts in square brackets.
-/

import Paydesk.Text.Hidden

namespace Paydesk.Text

/-- What stands for a character between quotes. -/
def quoteChar (char : Char) : List Char :=
  match char with
  | '"' => ['\\', '"']
  | '\\' => ['\\', '\\']
  | '\n' => ['\\', 'n']
  | '\r' => ['\\', 'r']
  | '\t' => ['\\', 't']
  | '\x00' => ['\\', '0']
  | char =>
    if isHidden char then
      ['\\', 'u', '\x7b'] ++ Nat.toDigits 16 char.toNat ++ ['\x7d']
    else [char]

/-- A text in quotes. -/
def quote (text : String) : String :=
  String.ofList ('"' :: (text.toList.flatMap quoteChar ++ ['"']))

/-- Texts in quotes, in square brackets. -/
def quoteAll (texts : List String) : String :=
  "[" ++ ", ".intercalate (texts.map quote) ++ "]"

end Paydesk.Text
