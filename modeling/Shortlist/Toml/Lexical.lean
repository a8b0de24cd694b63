import Shortlist.Text.Digits

/-!
# Blanks, line ends and comments of TOML

Blanks are spaces and tabs; a line ends with a line feed, with or without a carriage return before
it. A comment goes to the end of its line and holds no control characters but tabs.
-/

namespace Shortlist.Toml

/-- A blank. -/
def isSpace (c : Char) : Bool := c == ' ' || c == '\t'

/-- A text without the blanks at its front. -/
def skipSpace (cs : List Char) : List Char := cs.dropWhile isSpace

/-- A character that comments and strings show as it is. -/
def isPlain (c : Char) : Bool := c == '\t' || (0x20 ≤ c.toNat && c.toNat != 0x7F)

/-- What follows a line end at the front of a text. -/
def readNewline : List Char → Option (List Char)
  | '\n' :: r => some r
  | '\r' :: '\n' :: r => some r
  | _ => none

/-- A text without the comment at its front. -/
def skipComment : List Char → List Char
  | '#' :: r => r.dropWhile isPlain
  | r => r

/-- Reads what may stand between the last part of a line and the next line: blanks, a comment, and
the line end, in place of which the text may end. -/
def readLineEnd (cs : List Char) : Option (List Char) :=
  match skipComment (skipSpace cs) with
  | [] => some []
  | r => readNewline r

/-- A text without the blanks and line ends at its front. -/
def skipBlankLines : List Char → List Char
  | '\n' :: r => skipBlankLines r
  | '\r' :: '\n' :: r => skipBlankLines r
  | c :: r => if isSpace c then skipBlankLines r else c :: r
  | [] => []

/-- A text without the blanks, line ends and comments at its front; a comment is taken with its line
end. The fuel bounds the comments. -/
def skipLines : (fuel : Nat) → List Char → Option (List Char)
  | 0, cs => some cs
  | fuel + 1, cs =>
    match skipBlankLines cs with
    | '#' :: r =>
      match readNewline (skipComment ('#' :: r)) with
      | none => none
      | some r => skipLines fuel r
    | r => some r

/-- The same with fuel for as many comments as there can be. -/
def skipBetween (cs : List Char) : Option (List Char) := skipLines (cs.length + 1) cs

end Shortlist.Toml
