import Shortlist.Decimal.Reading
import Shortlist.Text.Digits
import Shortlist.Toml.Value

/-!
# Numbers of TOML

Whole numbers have a sign and decimal digits without a leading zero, or a base mark and digits of
that base, and must fit 64 bits. A fraction or an exponent makes a number a float; one that is too
large upwards is refused. An underscore may stand between two digits.
-/

namespace Shortlist.Toml

open Shortlist.Text (isDigit isHexDigit numberOf)

/-- Reads digits of a kind, single underscores between them left out. -/
def readRun (digit : Char → Bool) : List Char → Option (List Char × List Char)
  | [] => none
  | c :: cs =>
    if digit c then
      match cs with
      | '_' :: r => (readRun digit r).map fun x => (c :: x.1, x.2)
      | d :: r =>
        if digit d then (readRun digit (d :: r)).map fun x => (c :: x.1, x.2)
        else some ([c], d :: r)
      | [] => some ([c], [])
    else none

/-- Reads a sign; whether it is a minus, and what follows it. -/
def readSign : List Char → Bool × List Char
  | '+' :: r => (false, r)
  | '-' :: r => (true, r)
  | r => (false, r)

/-- The first number above those that 64 bits hold with a sign. -/
def wholeBound : Int := 0x8000000000000000

/-- A whole number, if it fits 64 bits. -/
def wholeOf? (n : Int) : Option Toml :=
  if -wholeBound ≤ n ∧ n < wholeBound then some (.whole n) else none

/-- Reads the digits of a base behind its mark. -/
def readBase (base : Nat) (digit : Char → Bool) (cs : List Char) : Option (Toml × List Char) := do
  let (ds, r) ← readRun digit cs
  return (← wholeOf? (numberOf base ds), r)

/-- Reads an exponent behind its letter. -/
def readExponent (cs : List Char) : Option (Int × List Char) := do
  let (negative, cs) := readSign cs
  let (ds, r) ← readRun isDigit cs
  let n := numberOf 10 ds
  return (if negative then -(n : Int) else n, r)

/-- A float by its digits, unless it is too large upwards. -/
def realOf? (negative : Bool) (ds fraction : List Char) (exponent : Int) : Option Toml :=
  let x := Decimal.toSignedFloat negative (numberOf 10 (ds ++ fraction))
    (exponent - fraction.length)
  if x == 1 / 0 then none else some (.real x)

/-- Reads what follows the whole part of a decimal number. -/
def readDecimalTail (negative : Bool) (ds cs : List Char) : Option (Toml × List Char) :=
  match cs with
  | '.' :: r => do
    let (fraction, r) ← readRun isDigit r
    match r with
    | 'e' :: r | 'E' :: r => do
      let (e, r) ← readExponent r
      return (← realOf? negative ds fraction e, r)
    | r => return (← realOf? negative ds fraction 0, r)
  | 'e' :: r | 'E' :: r => do
    let (e, r) ← readExponent r
    return (← realOf? negative ds [] e, r)
  | r => do
    let n : Int := numberOf 10 ds
    return (← wholeOf? (if negative then -n else n), r)

/-- Reads a number with an optional sign. -/
def readSigned (cs : List Char) : Option (Toml × List Char) :=
  let (negative, cs) := readSign cs
  match cs with
  | 'i' :: 'n' :: 'f' :: r => some (.real (if negative then -(1 / 0) else 1 / 0), r)
  | 'n' :: 'a' :: 'n' :: r => some (.real (0 / 0), r)
  | '0' :: r => readDecimalTail negative ['0'] r
  | cs => do
    let (ds, r) ← readRun isDigit cs
    readDecimalTail negative ds r

/-- Reads a number. -/
def readNumber : List Char → Option (Toml × List Char)
  | '0' :: 'x' :: r => readBase 16 isHexDigit r
  | '0' :: 'o' :: r => readBase 8 (fun c => '0' ≤ c && c ≤ '7') r
  | '0' :: 'b' :: r => readBase 2 (fun c => c == '0' || c == '1') r
  | cs => readSigned cs

end Shortlist.Toml
