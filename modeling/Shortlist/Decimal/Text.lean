import Shortlist.Decimal.Shortest

/-!
# Floats as text

Two ways of writing the shortest decimal of a float. `plain` never uses an exponent and writes a
whole number without a point, and of two equally near decimals it takes the upper one; messages use
it. `pointed` always shows a point or an exponent, the latter for magnitudes from `10^16` upwards
and below `10^-5`, and takes the even one; it is how a data value shows a number that is not whole.
-/

namespace Shortlist.Decimal

/-- The digits of a whole number. -/
def digitsOf (n : Nat) : List Char := Nat.toDigits 10 n

/-- `digits * 10^exponent` without an exponent: zeros are added on the right or behind the point. -/
def Scientific.positional (d : Scientific) : List Char :=
  let ds := digitsOf d.digits
  match d.exponent with
  | .ofNat k => ds ++ List.replicate k '0'
  | .negSucc k =>
    let places := k + 1
    if places < ds.length then
      ds.take (ds.length - places) ++ '.' :: ds.drop (ds.length - places)
    else '0' :: '.' :: List.replicate (places - ds.length) '0' ++ ds

/-- `digits * 10^exponent` with one digit before the point and an exponent. -/
def Scientific.exponential (d : Scientific) : List Char :=
  let ds := digitsOf d.digits
  let e : Int := d.exponent + ds.length - 1
  let mantissa := match ds with
    | a :: b :: r => a :: '.' :: b :: r
    | short => short
  let power := match e with
    | .ofNat k => digitsOf k
    | .negSucc k => '-' :: digitsOf (k + 1)
  mantissa ++ 'e' :: power

/-- A float without an exponent: `2`, `0.5`, `-0`, `1000000`, `NaN`, `inf`, `-inf`. -/
def plain (x : Float) : String :=
  let p := Parts.ofFloat x
  let sign := if p.negative then ['-'] else []
  if p.biased = 2047 then
    if p.fraction = 0 then String.ofList (sign ++ "inf".toList) else "NaN"
  else if p.biased = 0 ∧ p.fraction = 0 then String.ofList (sign ++ ['0'])
  else String.ofList (sign ++ (p.shortest .upper).positional)

/-- A finite float with a point or an exponent: `2.0`, `0.5`, `-0.0`, `1e16`, `1.5e-7`. -/
def pointed (x : Float) : String :=
  let p := Parts.ofFloat x
  let sign := if p.negative then ['-'] else []
  let body :=
    if p.biased = 0 ∧ p.fraction = 0 then "0.0".toList
    else
      let d := p.shortest .even
      let top : Int := d.exponent + (digitsOf d.digits).length
      if -5 < top ∧ top ≤ 16 then
        if 0 ≤ d.exponent then d.positional ++ ".0".toList else d.positional
      else d.exponential
  String.ofList (sign ++ body)

end Shortlist.Decimal
