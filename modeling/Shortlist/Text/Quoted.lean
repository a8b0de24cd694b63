import Shortlist.Text.Hidden

/-!
# Quoted text

Messages show a text between double quotes, with the quote, the backslash and every character that
would not be seen written as an escape: `\n`, `\r`, `\t`, `\0`, and `\u{…}` around the
lower-case hexadecimal number of any other. The single quote stands for itself.
-/

namespace Shortlist.Text

/-- A number in lower-case hexadecimal, without leading zeros. -/
def lowerHex (n : Nat) : List Char := Nat.toDigits 16 n

/-- A number in lower-case hexadecimal, padded with zeros to at least `width` digits. -/
def paddedHex (width n : Nat) : List Char :=
  let ds := lowerHex n
  List.replicate (width - ds.length) '0' ++ ds

/-- One character of a quoted text. -/
def quoteChar (c : Char) : List Char :=
  if c = '"' then ['\\', '"']
  else if c = '\\' then ['\\', '\\']
  else if c = '\n' then ['\\', 'n']
  else if c = '\r' then ['\\', 'r']
  else if c = '\t' then ['\\', 't']
  else if c.toNat = 0 then ['\\', '0']
  else if isHidden c then ['\\', 'u', '\x7b'] ++ lowerHex c.toNat ++ ['\x7d']
  else [c]

/-- A text as messages quote it. -/
def quote (s : String) : String := String.ofList ('"' :: s.toList.flatMap quoteChar ++ ['"'])

end Shortlist.Text
