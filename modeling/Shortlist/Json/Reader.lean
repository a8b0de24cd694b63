import Shortlist.Decimal.Reading
import Shortlist.Json.Value

/-!
# Reading JSON

A reader of one JSON value with blanks around it. Arrays and objects may be nested up to
`maxDepth` levels. A number is read as it is written (`Numeral`), and then as its first digits that
fit 64 bits, times a power of ten; a number too large for a float is refused.

The functions that call each other take an amount of fuel, which `readInside` sets to more than the
number of characters; every call reads at least one of them.
-/

namespace Shortlist.Json

open Literal (isSpace readBody)
open Shortlist.Text (isDigit numberOf)

/-- The greatest number of levels of arrays and objects. -/
def maxDepth : Nat := 127

/-! ## Numbers -/

/-- The value of a decimal digit. -/
def digitValue (c : Char) : Nat := c.toNat - '0'.toNat

/-- The greatest number of 64 bits. -/
def maxWord : Nat := 0xFFFFFFFFFFFFFFFF

/-- A power of ten with a significand of 64 bits in front. -/
structure Scaled where
  significand : Nat
  exponent : Int

/-- Reads digits before the point: once they no longer fit, each moves the point instead. -/
def Scaled.ofWhole (ds : List Char) : Scaled :=
  (ds.foldl (fun (acc : Scaled × Bool) c =>
    let next := acc.1.significand * 10 + digitValue c
    if acc.2 || maxWord < next then (⟨acc.1.significand, acc.1.exponent + 1⟩, true)
    else (⟨next, 0⟩, false)) (⟨0, 0⟩, false)).1

/-- Reads digits behind the point, up to the first that does not fit. -/
def Scaled.withFraction (s : Scaled) : List Char → Scaled
  | [] => s
  | c :: cs =>
    let next := s.significand * 10 + digitValue c
    if maxWord < next then s else Scaled.withFraction ⟨next, s.exponent - 1⟩ cs

/-- The power of ten nearest to `10^n` as a float. -/
def tenTo (n : Nat) : Float := Decimal.toFloat 1 n

/-- Divides by powers of ten until the exponent is used up; `fuel` bounds the divisions. -/
def divideDown : (fuel : Nat) → Float → Nat → Float
  | 0, x, _ => x
  | fuel + 1, x, n =>
    if n ≤ 308 then x / tenTo n
    else if x == 0 then x
    else divideDown fuel (x / tenTo 308) (n - 308)

/-- The float of a significand and a power of ten, unless it is too large. -/
def Scaled.toFloat? (s : Scaled) : Option Float :=
  let x := (UInt64.ofNat s.significand).toFloat
  match s.exponent with
  | .ofNat n =>
    if n ≤ 308 then
      let y := x * tenTo n
      if y.isInf then none else some y
    else if s.significand = 0 then some 0 else none
  | .negSucc n => some (divideDown 8 x (n + 1))

/-- The value of a number written without a point or an exponent. -/
def wholeNumber? (negative : Bool) (ds : List Char) : Option Json :=
  let n := numberOf 10 ds
  if negative then
    if 0 < n ∧ n ≤ 0x8000000000000000 then some (.whole (-(n : Int)))
    else (Scaled.ofWhole ds).toFloat?.map fun x => .real (-x)
  else if n ≤ maxWord then some (.whole n)
  else (Scaled.ofWhole ds).toFloat?.map .real

/-- The value of a number with a point or an exponent. -/
def realNumber? (negative : Bool) (ds fraction : List Char) (exponent : Int) : Option Json :=
  let s := (Scaled.ofWhole ds).withFraction fraction
  let sign (x : Float) : Json := .real (if negative then -x else x)
  Scaled.toFloat? ⟨s.significand, s.exponent + exponent⟩ |>.map sign

/-- A number as it is written. -/
structure Numeral where
  negative : Bool
  /-- The digits before the point. -/
  digits : List Char
  /-- The digits behind the point, if there is a point. -/
  fraction? : Option (List Char)
  /-- The exponent, if there is one. -/
  exponent? : Option Int

/-- The value of a number. -/
def Numeral.value? (n : Numeral) : Option Json :=
  match n.fraction?, n.exponent? with
  | none, none => wholeNumber? n.negative n.digits
  | fraction?, exponent? =>
    realNumber? n.negative n.digits (fraction?.getD []) (exponent?.getD 0)

/-- Reads digits, at least one. -/
def readDigits (cs : List Char) : Option (List Char × List Char) :=
  let (ds, rest) := cs.span isDigit
  if ds.isEmpty then none else some (ds, rest)

/-- Reads the digits before the point, without a leading zero. -/
def readWhole (cs : List Char) : Option (List Char × List Char) :=
  match readDigits cs with
  | none | some ('0' :: _ :: _, _) => none
  | found => found

/-- Reads a point with the digits behind it, if there is a point. -/
def readFraction : List Char → Option (Option (List Char) × List Char)
  | '.' :: cs => (readDigits cs).map fun (ds, rest) => (some ds, rest)
  | cs => some (none, cs)

/-- Whether a sign in front is a minus, and what follows it. -/
def readSign : List Char → Bool × List Char
  | '+' :: cs => (false, cs)
  | '-' :: cs => (true, cs)
  | cs => (false, cs)

/-- Reads an exponent with its letter, if there is one. -/
def readExponent : List Char → Option (Option Int × List Char)
  | 'e' :: cs | 'E' :: cs =>
    let (negative, cs) := readSign cs
    (readDigits cs).map fun (ds, rest) =>
      let n := numberOf 10 ds
      (some (if negative then -(n : Int) else n), rest)
  | cs => some (none, cs)

/-- Reads a number as it is written, behind its minus if there is one. -/
def readUnsigned (negative : Bool) (cs : List Char) : Option (Numeral × List Char) := do
  let (digits, cs) ← readWhole cs
  let (fraction?, cs) ← readFraction cs
  let (exponent?, cs) ← readExponent cs
  return ({ negative, digits, fraction?, exponent? }, cs)

/-- Reads a number as it is written. -/
def readNumeral : List Char → Option (Numeral × List Char)
  | '-' :: cs => readUnsigned true cs
  | cs => readUnsigned false cs

/-- Reads a number. -/
def readNumber (cs : List Char) : Option (Json × List Char) := do
  let (n, rest) ← readNumeral cs
  n.value?.map (·, rest)

/-! ## Values -/

/-- A text without the blanks at its front. -/
def skip (cs : List Char) : List Char := cs.dropWhile isSpace

mutual

/-- Reads a value inside `depth` levels. -/
def readValue : (fuel : Nat) → (depth : Nat) → List Char → Option (Json × List Char)
  | 0, _, _ => none
  | fuel + 1, depth, cs =>
    match skip cs with
    | 'n' :: 'u' :: 'l' :: 'l' :: r => some (.null, r)
    | 't' :: 'r' :: 'u' :: 'e' :: r => some (.bool true, r)
    | 'f' :: 'a' :: 'l' :: 's' :: 'e' :: r => some (.bool false, r)
    | '"' :: r => (readBody r).map fun (s, r) => (.text (String.ofList s), r)
    | '[' :: r =>
      if maxDepth ≤ depth then none
      else match skip r with
        | ']' :: r => some (.array [], r)
        | r => (readItems fuel (depth + 1) r).map fun (vs, r) => (.array vs, r)
    | '\x7b' :: r =>
      if maxDepth ≤ depth then none
      else match skip r with
        | '\x7d' :: r => some (.object [], r)
        | r => (readMembers fuel (depth + 1) r).map fun (ms, r) => (.object ms, r)
    | r => readNumber r

/-- Reads the items of an array up to its closing bracket. -/
def readItems : (fuel : Nat) → (depth : Nat) → List Char → Option (List Json × List Char)
  | 0, _, _ => none
  | fuel + 1, depth, cs =>
    match readValue fuel depth cs with
    | none => none
    | some (v, r) =>
      match skip r with
      | ']' :: r => some ([v], r)
      | ',' :: r => (readItems fuel depth r).map fun (vs, r) => (v :: vs, r)
      | _ => none

/-- Reads the members of an object up to its closing brace. -/
def readMembers : (fuel : Nat) → (depth : Nat) → List Char →
    Option (List (String × Json) × List Char)
  | 0, _, _ => none
  | fuel + 1, depth, cs =>
    match skip cs with
    | '"' :: r =>
      match readBody r with
      | none => none
      | some (name, r) =>
        match skip r with
        | ':' :: r =>
          match readValue fuel depth r with
          | none => none
          | some (v, r) =>
            let m := (String.ofList name, v)
            match skip r with
            | '\x7d' :: r => some ([m], r)
            | ',' :: r => (readMembers fuel depth r).map fun (ms, r) => (m :: ms, r)
            | _ => none
        | _ => none
    | _ => none

end

/-- Reads a text that is one value inside `depth` levels and nothing else but blanks. -/
def readInside (depth : Nat) (cs : List Char) : Option Json :=
  match readValue (2 * cs.length + 2) depth cs with
  | some (v, rest) => if rest.all isSpace then some v else none
  | none => none

/-- Reads a text that is one value and nothing else but blanks. -/
def read (s : String) : Option Json := readInside 0 s.toList

end Shortlist.Json
