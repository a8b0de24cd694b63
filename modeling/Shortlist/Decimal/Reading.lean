/-!
# Decimals as floats

The float nearest to a decimal, a half going to the even neighbour. Decimals far outside the range
of floats are settled by their number of digits, so the size of an exponent in a text does not
bound the work.
-/

namespace Shortlist.Decimal

/-- The float nearest to `digits * 10^exponent`. -/
def toFloat (digits : Nat) (exponent : Int) : Float :=
  if digits = 0 then 0
  else
    let size : Int := (Nat.toDigits 10 digits).length + exponent
    if 310 < size then 1 / 0
    else if size < -330 then 0
    else match exponent with
      | .ofNat e => Float.ofScientific digits false e
      | .negSucc e => Float.ofScientific digits true (e + 1)

/-- The same with a sign, which a zero keeps. -/
def toSignedFloat (negative : Bool) (digits : Nat) (exponent : Int) : Float :=
  if negative then -toFloat digits exponent else toFloat digits exponent

end Shortlist.Decimal
