import Shortlist.Text.Digits
import Shortlist.Text.Quoted

/-!
# Text as a JSON string

Between its quotes, a JSON string shows a quote, a backslash and each character below `U+0020` by
an escape and every other character as itself. A reader accepts more than one spelling of a
character: the short escapes, `\u` with four hexadecimal digits, and for characters beyond
`U+FFFF` two of these, a high and a low half, one right after the other. A half without its partner
is refused.

`write` and `readBody` are the two sides; `read` reads a whole text, blanks around the string
allowed.
-/

namespace Shortlist.Json.Literal

open Shortlist.Text (paddedHex hexValue?)

/-! ## Writing -/

/-- One character between the quotes. -/
def escape (c : Char) : List Char :=
  if c = '"' then ['\\', '"']
  else if c = '\\' then ['\\', '\\']
  else if c = '\n' then ['\\', 'n']
  else if c = '\r' then ['\\', 'r']
  else if c = '\t' then ['\\', 't']
  else if c.toNat = 0x8 then ['\\', 'b']
  else if c.toNat = 0xC then ['\\', 'f']
  else if c.toNat < 0x20 then '\\' :: 'u' :: paddedHex 4 c.toNat
  else [c]

/-- A text as a JSON string. -/
def write (cs : List Char) : List Char := '"' :: cs.flatMap escape ++ ['"']

/-! ## Reading -/

/-- The number of four hexadecimal digits. -/
def unit? (a b c d : Char) : Option Nat :=
  match hexValue? a, hexValue? b, hexValue? c, hexValue? d with
  | some a, some b, some c, some d => some (((a * 16 + b) * 16 + c) * 16 + d)
  | _, _, _, _ => none

/-- A high half of a pair. -/
def isHigh (n : Nat) : Bool := 0xD800 ≤ n && n ≤ 0xDBFF

/-- A low half of a pair. -/
def isLow (n : Nat) : Bool := 0xDC00 ≤ n && n ≤ 0xDFFF

/-- The character of a pair of halves. -/
def joined (high low : Nat) : Char :=
  Char.ofNat ((high - 0xD800) * 0x400 + (low - 0xDC00) + 0x10000)

/-- The character of a short escape. -/
def short? (c : Char) : Option Char :=
  match c with
  | '"' => some '"'
  | '\\' => some '\\'
  | '/' => some '/'
  | 'b' => some '\x08'
  | 'f' => some '\x0c'
  | 'n' => some '\n'
  | 'r' => some '\r'
  | 't' => some '\t'
  | _ => none

/-- Reads up to and including the closing quote: the text, and what follows it. -/
def readBody : List Char → Option (List Char × List Char)
  | [] => none
  | '"' :: rest => some ([], rest)
  | '\\' :: 'u' :: a :: b :: c :: d :: rest =>
    match unit? a b c d with
    | none => none
    | some n =>
      if isHigh n then
        match rest with
        | '\\' :: 'u' :: e :: f :: g :: h :: rest' =>
          match unit? e f g h with
          | none => none
          | some m =>
            if isLow m then
              (readBody rest').map fun r => (joined n m :: r.1, r.2)
            else none
        | _ => none
      else if isLow n then none
      else (readBody rest).map fun r => (Char.ofNat n :: r.1, r.2)
  | '\\' :: c :: rest =>
    match short? c with
    | none => none
    | some c => (readBody rest).map fun r => (c :: r.1, r.2)
  | c :: rest =>
    if c = '\\' ∨ c.toNat < 0x20 then none
    else (readBody rest).map fun r => (c :: r.1, r.2)

/-- The blanks that may stand between the parts of a JSON text. -/
def isSpace (c : Char) : Bool := c == ' ' || c == '\t' || c == '\n' || c == '\r'

/-- Reads a text that is one string and nothing else but blanks. -/
def read (cs : List Char) : Option (List Char) :=
  match cs.dropWhile isSpace with
  | '"' :: rest =>
    match readBody rest with
    | some (text, after) => if after.all isSpace then some text else none
    | none => none
  | _ => none

end Shortlist.Json.Literal
