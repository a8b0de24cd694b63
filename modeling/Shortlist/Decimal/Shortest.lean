/-!
# The shortest decimal that reads back

A positive finite float is `m * 2^q` for whole numbers `m` and `q`, and a decimal reads back as it
when it lies in the interval of reals that round to it, whose ends belong to it when `m` is even.
`shortest` searches the grids of whole multiples of `10^e` from the coarsest downwards. On each
grid only the two neighbours of the float can lie in the interval if any point does, so testing
these two decides the grid; the first grid with a hit gives the fewest digits, and of two hits the
nearer wins. Where both are equally near, as for `2^-25`, the format that is written decides by a
`Tie`. All arithmetic is on whole numbers, hence exact.
-/

namespace Shortlist.Decimal

/-- A positive decimal `digits * 10^exponent`. -/
structure Scientific where
  digits : Nat
  exponent : Int
  deriving DecidableEq, Repr

/-- Which of two neighbours is taken that are equally near. -/
inductive Tie where
  | even
  | upper
  deriving DecidableEq, Repr

/-- A positive real `num / den` with the interval around it that rounds to the same float. -/
structure Rounding where
  /-- The common denominator. -/
  den : Nat
  /-- The numerator of the float itself. -/
  num : Nat
  /-- The numerator of the lower end. -/
  low : Nat
  /-- The numerator of the upper end. -/
  high : Nat
  /-- Whether the ends themselves round to the float. -/
  closed : Bool
  deriving Repr

/-- The rounding interval of `m * 2^q`. The gap below is half as wide when `m` is the least
mantissa of its binade, which `narrow` tells. -/
def Rounding.ofBinary (m : Nat) (q : Int) (narrow : Bool) : Rounding :=
  let up := Nat.pow 2 q.toNat
  { den := 4 * Nat.pow 2 (-q).toNat
    num := 4 * m * up
    low := (4 * m - if narrow then 1 else 2) * up
    high := (4 * m + 2) * up
    closed := m % 2 == 0 }

/-- The interval in units of `10^e`. -/
def Rounding.scale (r : Rounding) (e : Int) : Rounding :=
  let down := Nat.pow 10 (-e).toNat
  { r with
    den := r.den * Nat.pow 10 e.toNat
    num := r.num * down
    low := r.low * down
    high := r.high * down }

/-- Whether the whole number `d` lies in the interval. -/
def Rounding.holds (r : Rounding) (d : Nat) : Bool :=
  if r.closed then r.low ≤ d * r.den && d * r.den ≤ r.high
  else r.low < d * r.den && d * r.den < r.high

/-- The whole number in the interval that is nearest to the float, if there is any. -/
def Rounding.nearest? (tie : Tie) (r : Rounding) : Option Nat :=
  let d := r.num / r.den
  let below := r.holds d
  let above := r.holds (d + 1)
  if below && above then
    let rest := 2 * (r.num - d * r.den)
    some (if rest < r.den || (rest == r.den && tie == .even && d % 2 == 0) then d else d + 1)
  else if below then some d
  else if above then some (d + 1)
  else none

/-- The first grid from `10^e` downwards that has a point in the interval; `fuel` bounds the
number of grids tried. -/
def Rounding.search (tie : Tie) (r : Rounding) : (fuel : Nat) → (e : Int) → Option Scientific
  | 0, _ => none
  | fuel + 1, e =>
    match (r.scale e).nearest? tie with
    | some d => some ⟨d, e⟩
    | none => r.search tie fuel (e - 1)

/-- An exponent whose power of ten is above `num / den`, by at most two places. -/
def Rounding.ceiling (r : Rounding) : Int :=
  if r.den ≤ r.num then ((Nat.toDigits 10 (r.num / r.den)).length : Int)
  else 2 - ((Nat.toDigits 10 (r.den / r.num)).length : Int)

/-- The parts of a float: its sign bit, its biased exponent and its fraction. -/
structure Parts where
  negative : Bool
  biased : Nat
  fraction : Nat
  deriving DecidableEq, Repr

/-- The number of fractions, which is also the leading bit that the format leaves out. -/
def Parts.fractions : Nat := 0x10000000000000

/-- The fields of the binary format with 64 bits: a sign bit, 11 bits and 52 bits. -/
def Parts.ofFloat (x : Float) : Parts :=
  let n := x.toBits.toNat
  { negative := n / fractions / 2048 == 1
    biased := n / fractions % 2048
    fraction := n % fractions }

/-- The rounding interval of the magnitude of a float that is neither zero nor special. -/
def Parts.rounding (p : Parts) : Rounding :=
  if p.biased = 0 then .ofBinary p.fraction (-1074) false
  else .ofBinary (fractions + p.fraction) ((p.biased : Int) - 1075)
    (p.fraction == 0 && 1 < p.biased)

/-- The shortest decimal that reads back as the magnitude, for a float that is neither zero nor
special. Seventeen digits always suffice, and `ceiling` is at most two places too high. -/
def Parts.shortest (tie : Tie) (p : Parts) : Scientific :=
  let r := p.rounding
  (r.search tie 24 r.ceiling).getD ⟨0, 0⟩

end Shortlist.Decimal
