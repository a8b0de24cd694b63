import Shortlist.Toml.Lexical

/-!
# Strings of TOML

A string stands between quotes, single or double, and between three of them it may go over several
lines. Double quotes know escapes, single quotes none. A line end right after three quotes is not
part of the string, and neither are, after a backslash at the end of a line, the blanks and line
ends that follow it. Up to two quotes may stand right before the closing three.
-/

namespace Shortlist.Toml

open Shortlist.Text (isHexDigit numberOf)

/-- The character with a number, if there is one. -/
def charOf? (n : Nat) : Option Char :=
  if n < 0xD800 ∨ (0xDFFF < n ∧ n < 0x110000) then some (Char.ofNat n) else none

/-- Reads a character by the number that `places` hexadecimal digits write. -/
def readScalar (places : Nat) (cs : List Char) : Option (Char × List Char) :=
  let ds := cs.take places
  if ds.length = places ∧ ds.all isHexDigit then
    (charOf? (numberOf 16 ds)).map (·, cs.drop places)
  else none

/-- Reads an escape behind its backslash. -/
def readEscape : List Char → Option (Char × List Char)
  | 'b' :: r => some ('\x08', r)
  | 'f' :: r => some ('\x0c', r)
  | 'n' :: r => some ('\n', r)
  | 'r' :: r => some ('\r', r)
  | 't' :: r => some ('\t', r)
  | '"' :: r => some ('"', r)
  | '\\' :: r => some ('\\', r)
  | 'u' :: r => readScalar 4 r
  | 'U' :: r => readScalar 8 r
  | _ => none

/-- Reads the rest of a string in double quotes. -/
def readBasic : (fuel : Nat) → List Char → Option (List Char × List Char)
  | 0, _ => none
  | fuel + 1, cs =>
    match cs with
    | [] => none
    | '"' :: r => some ([], r)
    | '\\' :: r => do
      let (c, r) ← readEscape r
      let (cs, r) ← readBasic fuel r
      return (c :: cs, r)
    | c :: r => do
      if !isPlain c then none
      let (cs, r) ← readBasic fuel r
      return (c :: cs, r)

/-- Reads the rest of a string in single quotes. -/
def readLiteral (cs : List Char) : Option (List Char × List Char) :=
  match cs.span fun c => isPlain c && c != '\'' with
  | (text, '\'' :: r) => some (text, r)
  | _ => none

/-- The quotes that stand right before the closing three, as far as they follow these. -/
def quotesBeforeEnd (quote : Char) (cs : List Char) : List Char × List Char :=
  match cs with
  | a :: b :: r =>
    if a = quote ∧ b = quote then ([a, b], r) else if a = quote then ([a], b :: r) else ([], cs)
  | [a] => if a = quote then ([a], []) else ([], cs)
  | [] => ([], [])

/-- Reads the rest of a string in three quotes of a kind; `escapes` tells whether it knows
escapes. -/
def readLong (quote : Char) (escapes : Bool) :
    (fuel : Nat) → List Char → Option (List Char × List Char)
  | 0, _ => none
  | fuel + 1, cs =>
    if [quote, quote, quote].isPrefixOf cs then some (quotesBeforeEnd quote (cs.drop 3))
    else match cs with
      | [] => none
      | '\n' :: r | '\r' :: '\n' :: r => do
        let (cs, r) ← readLong quote escapes fuel r
        return ('\n' :: cs, r)
      | c :: r =>
        if escapes ∧ c = '\\' then
          match readNewline (skipSpace r) with
          | some r => readLong quote escapes fuel (skipBlankLines r)
          | none => do
            let (c, r) ← readEscape r
            let (cs, r) ← readLong quote escapes fuel r
            return (c :: cs, r)
        else if isPlain c then do
          let (cs, r) ← readLong quote escapes fuel r
          return (c :: cs, r)
        else none

/-- A text without the line end at its front. -/
def skipNewline (cs : List Char) : List Char := (readNewline cs).getD cs

/-- Reads a string of one line. -/
def readShortString : List Char → Option (String × List Char)
  | '"' :: r => (readBasic (r.length + 1) r).map fun x => (String.ofList x.1, x.2)
  | '\'' :: r => (readLiteral r).map fun x => (String.ofList x.1, x.2)
  | _ => none

/-- Reads a string. -/
def readString : List Char → Option (String × List Char)
  | '"' :: '"' :: '"' :: r =>
    (readLong '"' true (r.length + 1) (skipNewline r)).map fun x => (String.ofList x.1, x.2)
  | '\'' :: '\'' :: '\'' :: r =>
    (readLong '\'' false (r.length + 1) (skipNewline r)).map fun x => (String.ofList x.1, x.2)
  | cs => readShortString cs

end Shortlist.Toml
