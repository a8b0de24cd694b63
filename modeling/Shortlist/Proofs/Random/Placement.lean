import Shortlist.Proofs.Random.Floyd
import Shortlist.Proofs.Random.Shuffle

/-!
# Samples that take one choice for each position

Floyd's way and the shuffle have the same shape: so many choices from given ranges are placed, and
the vectors of choices correspond to the samples, one to one. `Placement` is that shape, with what
it stands for. Where a way of sampling has a placement, its samples are there as soon as the choices
are (`WordStream.sample?_of_placement`), and its ranges have no more values than a word
(`length_lt_of_placement`).
-/

namespace Shortlist.Random

/-- How many values the choices have, and to which positions they lead. -/
structure Placement where
  ranges : (length amount : Nat) → List Nat
  place : (length amount : Nat) → (choices : List Nat) → List Nat
  /-- There is one choice for each position. -/
  length_ranges : ∀ length amount, (ranges length amount).length = amount
  /-- Every choice has at least one value, and no more values than there are positions. -/
  ranges_bounds : ∀ length amount, amount ≤ length →
    ∀ n ∈ ranges length amount, 0 < n ∧ n ≤ length
  /-- The vectors of choices lead to the samples, to each of them exactly one. -/
  place_bijOn : ∀ length amount, amount ≤ length →
    Set.BijOn (place length amount) (choiceVectors (ranges length amount)) (samples length amount)

/-- Floyd's way. -/
def floydPlacement : Placement where
  ranges := floydRanges
  place := floyd
  length_ranges _ _ := List.length_range'
  ranges_bounds length amount h n hn := by
    have hrange : length - amount + 1 ≤ n ∧ n < length - amount + 1 + amount :=
      List.mem_range'_1.mp hn
    omega
  place_bijOn _ _ h := floyd_bijOn h

/-- The shuffle of the front. -/
def shufflePlacement : Placement where
  ranges := shuffleRanges
  place := shuffle
  length_ranges length amount := by
    unfold shuffleRanges
    rw [List.length_map, List.length_range]
  ranges_bounds length amount h n hn := by
    obtain ⟨i, hi, rfl⟩ := List.mem_map.mp hn
    have hlt := List.mem_range.mp hi
    omega
  place_bijOn _ _ h := shuffle_bijOn h

/-- The placement of a way of sampling, if it takes one choice for each position. -/
def Strategy.placement? : Strategy → Option Placement
  | .floyd => some floydPlacement
  | .shuffle => some shufflePlacement
  | .collect _ => none

/-- The ways of sampling that there are. -/
theorem strategy_mem (length amount : Nat) :
    strategy length amount ∈
      [Strategy.floyd, Strategy.shuffle, Strategy.collect 32, Strategy.collect 64] := by
  unfold strategy
  dsimp only
  split_ifs <;> simp

/-- All four are used. -/
example : [strategy 10 10, strategy 12 12, strategy 100000 200, strategy 0x100000000 1] =
    [.floyd, .shuffle, .collect 32, .collect 64] := by decide +kernel

section

variable {length amount : Nat} {p : Placement}
  (hp : (strategy length amount).placement? = some p)

include hp

/-- Where choices are placed, a word can choose any of the positions. -/
theorem length_lt_of_placement : length < wordValues := by
  by_contra hlarge
  have hstrategy : strategy length amount = .collect 64 := by
    unfold strategy
    dsimp only
    exact if_pos (Nat.le_of_not_lt hlarge)
  rw [hstrategy] at hp
  cases hp

/-- Where choices are placed, the sample is there at once, whatever the number of attempts. -/
theorem WordStream.sample?_of_placement (fuel : Nat) (s : WordStream) :
    s.sample? fuel length amount =
      some (p.place length amount (s.choices (p.ranges length amount)).1,
        (s.choices (p.ranges length amount)).2) := by
  unfold sample?
  cases hway : strategy length amount with
  | floyd =>
    rw [hway] at hp
    obtain rfl := Option.some.inj hp
    rfl
  | shuffle =>
    rw [hway] at hp
    obtain rfl := Option.some.inj hp
    rfl
  | collect width =>
    rw [hway] at hp
    cases hp

end

end Shortlist.Random
