/-!
# Sources of draws

The cache draws a number to decide on a refresh, and the selector draws a sample of positions.
`RandomSource` is what they need of a source. Two sources stand here: `Fixed`, which gives draws
laid down beforehand, and `Tallied`, which passes every draw on to another source and notes what
was asked of it. The seeded source is in `Random/Seeded.lean`.
-/

namespace Shortlist

/-- A source of draws, as a state that each draw advances. -/
class RandomSource (σ : Type) where
  /-- A draw from `[0, 1)`. -/
  unit : σ → Float × σ
  /-- `amount` distinct positions below `length`; callers see to it that `amount ≤ length`. -/
  sample : σ → (length amount : Nat) → List Nat × σ

namespace Random

/-- Which positions a fixed source answers. -/
inductive Order where
  /-- The first positions, upwards. -/
  | first
  /-- The last positions, upwards. -/
  | last
  /-- The last positions, downwards. -/
  | reverse
  deriving DecidableEq, Repr

/-- The positions of an order. -/
def Order.positions : Order → (length amount : Nat) → List Nat
  | first, _, amount => List.range amount
  | last, length, amount => List.range' (length - amount) amount
  | reverse, length, amount => (List.range' (length - amount) amount).reverse

/-- Draws laid down beforehand: the unit draws of a list, then one value for ever, and samples in
one order. -/
structure Fixed where
  units : List Float := []
  after : Float := 0.99
  order : Order := .first

instance : RandomSource Fixed where
  unit s := match s.units with
    | [] => (s.after, s)
    | u :: us => (u, { s with units := us })
  sample s length amount := (s.order.positions length amount, s)

/-- A source with a tally of what it was asked. -/
structure Tallied (σ : Type) where
  source : σ
  /-- How many unit draws were made. -/
  units : Nat := 0
  /-- The samples that were asked for, as length and amount, the latest first. -/
  samples : List (Nat × Nat) := []

instance [RandomSource σ] : RandomSource (Tallied σ) where
  unit s :=
    let (u, source) := RandomSource.unit s.source
    (u, { s with source, units := s.units + 1 })
  sample s length amount :=
    let (picked, source) := RandomSource.sample s.source length amount
    (picked, { s with source, samples := (length, amount) :: s.samples })

end Random

end Shortlist
