import Shortlist.Text.Digits

/-!
# Tables in texts

A table of characters, each with the characters that it stands for, is written as a text: entries
between blanks and line ends, and in each the code point, a colon, and the other code points between
points. All numbers are hexadecimal.
-/

namespace Shortlist.Unicode

open Shortlist.Text (numberOf)

/-- One entry of a table. -/
def readEntry (cs : List Char) : Nat × List Nat :=
  let (key, rest) := cs.span (· != ':')
  (numberOf 16 key, ((rest.drop 1).splitOn '.').map (numberOf 16))

/-- The entries of a table. -/
def readTable (s : String) : List (Nat × List Nat) :=
  ((s.toList.splitOnP fun c => c == ' ' || c == '\n').filter (!·.isEmpty)).map readEntry

end Shortlist.Unicode
