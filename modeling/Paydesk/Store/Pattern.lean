/-
**Patterns with wildcards.**

In a pattern a percent sign stands for any characters, an underline for any single one, and a
character after a backslash for itself. ASCII letters match in either case. A pattern and a text
end at their first null character, and the noncharacters `U+FFFE` and `U+FFFF` count in both as
the replacement character.

* `Pattern.parse`: the parts of a pattern;
* `Pattern.isMatchedBy`: whether a text has a pattern;
* `escapePattern`: the pattern of a text that stands for itself.
-/

import Paydesk.Text.Ascii

namespace Paydesk

/-- A part of a pattern. -/
inductive PatternPart where
  | anything
  | anyChar
  | char (char : Char)
  deriving DecidableEq

/-- The parts of a pattern in order. -/
abbrev Pattern : Type := List PatternPart

/-- A character as it is matched: a noncharacter of the first plane's end counts as the replacement
character. -/
def matchedChar (char : Char) : Char :=
  if char == '\ufffe' || char == '\uffff' then '\ufffd' else char

/-- The characters that are matched, up to the first null character. -/
def matchedChars (chars : List Char) : List Char :=
  (chars.takeWhile (· != '\x00')).map matchedChar

/-- Characters with a backslash before each that would not stand for itself. -/
def escapePattern (chars : List Char) : List Char :=
  chars.flatMap fun char => if "%_\\".toList.contains char then ['\\', char] else [char]

/-- The ends of a list, the whole list first. -/
def endsOf {α : Type} : List α → List (List α)
  | [] => [[]]
  | item :: rest => (item :: rest) :: endsOf rest

namespace Pattern

/-- The parts of a pattern's characters. -/
def parse : List Char → Pattern
  | [] => []
  | '%' :: rest => .anything :: parse rest
  | '_' :: rest => .anyChar :: parse rest
  | '\\' :: char :: rest => .char char :: parse rest
  | char :: rest => .char char :: parse rest

/-- Whether characters have a pattern. -/
def isMatchedBy : Pattern → List Char → Bool
  | [], chars => chars.isEmpty
  | .anything :: rest, chars => (endsOf chars).any (isMatchedBy rest)
  | .anyChar :: rest, chars =>
    match chars with
    | _ :: more => isMatchedBy rest more
    | [] => false
  | .char letter :: rest, chars =>
    match chars with
    | char :: more => char.toLower == letter.toLower && isMatchedBy rest more
    | [] => false

end Pattern

/-- Whether a text has a pattern given in text. -/
def hasPattern (text pattern : List Char) : Bool :=
  (Pattern.parse (matchedChars pattern)).isMatchedBy (matchedChars text)

/-- The pattern of texts in which given characters occur. -/
def patternAround (chars : List Char) : List Char := '%' :: (escapePattern chars ++ ['%'])

end Paydesk
