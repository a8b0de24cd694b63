import Shortlist.Random.Sampling
import Shortlist.Random.Source
import Shortlist.Random.Words

/-!
# The seeded source

All draws of a seeded source come from the word stream of its seed, so the same seed gives the same
draws. `unitOf` is a dyadic fraction, `below` a choice from `n` values by one word and, near a
boundary, a second one, and `attempt` a choice by words that may be refused. A sample takes its
choices in order and lets `Random/Sampling.lean` place them.
-/

namespace Shortlist.Random

/-- The float `k / 2^53`, for `k < 2^53`. Its fields are written down directly: with `b` the number
of places of `k` behind the leading one, the exponent is `b - 53` and the fraction holds these
places, moved to the front. -/
def unitOf (k : Nat) : Float :=
  if k = 0 then 0
  else
    let b := k.log2
    let places := (k - Nat.pow 2 b) * Nat.pow 2 (52 - b)
    Float.ofBits (UInt64.ofNat ((1023 + b - 53) * Nat.pow 2 52 + places))

namespace WordStream

/-- A draw from `[0, 1)`: the upper 53 bits of two words as a fraction. -/
def unit (s : WordStream) : Float × WordStream :=
  let (u, s) := s.nextPair
  (unitOf (u / 2048), s)

/-- A choice from `n` values, for `n < 2^32`: the upper half of word times `n`, with a carry from a
second word when the lower half is close to the top. -/
def below (n : Nat) (s : WordStream) : Nat × WordStream :=
  let (w, s) := s.next
  let high := w.toNat * n / wordValues
  let low := w.toNat * n % wordValues
  if wordValues - n < low then
    let (v, s) := s.next
    (if wordValues ≤ low + v.toNat * n / wordValues then high + 1 else high, s)
  else (high, s)

/-- Choices for a list of ranges, in order. -/
def choices : List Nat → WordStream → List Nat × WordStream
  | [], s => ([], s)
  | n :: ns, s =>
    let (c, s) := s.below n
    let (cs, s) := choices ns s
    (c :: cs, s)

/-- A number of 32 or 64 bits. -/
def bits (width : Nat) (s : WordStream) : Nat × WordStream :=
  if width = 64 then s.nextPair
  else
    let (w, s) := s.next
    (w.toNat, s)

/-- One attempt at a value below `n`: refused when it falls in the part that would make some values
more likely than others. -/
def attempt (width n : Nat) (s : WordStream) : Option Nat × WordStream :=
  let (u, s) := s.bits width
  let values := Nat.pow 2 width
  let m := u * n
  (if (values - n) % n ≤ m % values then some (m / values) else none, s)

/-- Collects `amount` distinct values below `n`, in the order in which they came, within `fuel`
attempts. -/
def collect (width n : Nat) : (fuel : Nat) → (amount : Nat) → Taken → WordStream →
    Option (List Nat × WordStream)
  | _, 0, taken, s => some (taken.latest.reverse, s)
  | 0, _ + 1, _, _ => none
  | fuel + 1, amount + 1, taken, s =>
    match s.attempt width n with
    | (some v, s) =>
      if taken.has v then collect width n fuel (amount + 1) taken s
      else collect width n fuel amount (taken.take v) s
    | (none, s) => collect width n fuel (amount + 1) taken s

/-- A sample within `fuel` attempts, where attempts are what the strategy needs. -/
def sample? (fuel length amount : Nat) (s : WordStream) : Option (List Nat × WordStream) :=
  match strategy length amount with
  | .floyd =>
    let (cs, s) := s.choices (floydRanges length amount)
    some (floyd length amount cs, s)
  | .shuffle =>
    let (cs, s) := s.choices (shuffleRanges length amount)
    some (shuffle length amount cs, s)
  | .collect width => s.collect width length fuel amount .nothing

/-- A number of attempts that is enough in practice. At most one attempt in two is refused, and of
the others fewer than one in thirty finds a value taken before, since values are collected only
where the amount is small beside the length; so the chance that this many attempts do not give
`amount` values is below `2^-500`. -/
def attempts (amount : Nat) : Nat := 100 * amount + 2000

/-- A sample; should the attempts run out, the first positions. -/
def sample (length amount : Nat) (s : WordStream) : List Nat × WordStream :=
  (s.sample? (attempts amount) length amount).getD (List.range amount, s)

end WordStream

instance : RandomSource WordStream where
  unit := WordStream.unit
  sample s length amount := s.sample length amount

end Shortlist.Random
