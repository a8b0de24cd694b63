import Std.Data.ExtTreeSet

/-!
# Samples without replacement

Three ways of turning bounded choices into distinct positions below a length.

* `floyd`: for every `j` from `length - amount` to `length - 1` a choice `t ≤ j` joins the sample;
  if it is there already, its earlier place is given to `j`.
* `shuffle`: for every place `i` below `amount` of the list of all positions, the entry there is
  swapped with a chosen one at or behind it; the first `amount` entries are the sample.
* `collect`: values are taken as they come, the ones taken before left out.

The first two are functions of a vector of choices alone, one choice for each position of the
sample, with the ranges of `floydRanges` and `shuffleRanges`; where the choices come from is the
business of the source. `strategy` says which way is used for which sizes.
-/

namespace Shortlist.Random

/-! ## Floyd's way -/

/-- How many values each choice has. -/
def floydRanges (length amount : Nat) : List Nat := List.range' (length - amount + 1) amount

/-- The choice `t` joins the sample; if it is there already, `j` takes its place first. -/
def floydJoin (sample : List Nat) (j t : Nat) : List Nat :=
  (if t ∈ sample then sample.replace t j else sample) ++ [t]

/-- Lets the choices join one after the other, for `j` and the numbers after it. -/
def floydFrom (sample : List Nat) (j : Nat) : List Nat → List Nat
  | [] => sample
  | t :: ts => floydFrom (floydJoin sample j t) (j + 1) ts

/-- The sample of a vector of choices. -/
def floyd (length amount : Nat) (choices : List Nat) : List Nat :=
  floydFrom [] (length - amount) choices

/-! ## Shuffling the front -/

/-- How many values each choice has. -/
def shuffleRanges (length amount : Nat) : List Nat :=
  (List.range amount).map (length - ·)

/-- Swaps place `i` and the ones after it with the chosen places behind them. -/
def shuffleFrom (xs : Array Nat) (i : Nat) : List Nat → Array Nat
  | [] => xs
  | c :: cs => shuffleFrom (xs.swapIfInBounds i (i + c)) (i + 1) cs

/-- The sample of a vector of choices. -/
def shuffle (length amount : Nat) (choices : List Nat) : List Nat :=
  ((shuffleFrom (Array.range length) 0 choices).extract 0 amount).toList

/-! ## Collecting -/

/-- The values taken so far: in a list, the latest first, and in a set, which says whether a value
is among them. -/
structure Taken where
  latest : List Nat
  members : Std.ExtTreeSet Nat
  mem_members : ∀ v, v ∈ members ↔ v ∈ latest

namespace Taken

/-- Nothing is taken. -/
def nothing : Taken where
  latest := []
  members := ∅
  mem_members := by simp

/-- Takes a value. -/
def take (t : Taken) (v : Nat) : Taken where
  latest := v :: t.latest
  members := t.members.insert v
  mem_members w := by
    rw [Std.ExtTreeSet.mem_insert, t.mem_members, Std.LawfulEqCmp.compare_eq_iff_eq, List.mem_cons,
      eq_comm]

/-- Whether a value is taken. -/
def has (t : Taken) (v : Nat) : Bool := t.members.contains v

/-- A value is taken when the list holds it. -/
theorem has_iff (t : Taken) (v : Nat) : t.has v = true ↔ v ∈ t.latest := by
  rw [has, Std.ExtTreeSet.contains_iff_mem, t.mem_members]

end Taken

/-! ## Which way -/

/-- A way of sampling. -/
inductive Strategy where
  | floyd
  | shuffle
  /-- Draws of so many bits, the ones taken before left out. -/
  | collect (bits : Nat)
  deriving DecidableEq, Repr

/-- The way for a length and an amount. The limits are compared in single precision. -/
def strategy (length amount : Nat) : Strategy :=
  let large := decide (500000 ≤ length)
  let l := Float32.ofNat length
  let a := Float32.ofNat amount
  if 0x100000000 ≤ length then .collect 64
  else if amount < 163 then
    let slope : Float32 := if large then 8 / 45 else 1.6
    let base : Float32 := if large then 70 / 9 else 10
    if 11 < amount ∧ l < (base + slope * a) * a then .shuffle else .floyd
  else
    let factor : Float32 := if large then 330 / 9 else 270
    if l < factor * a then .shuffle else .collect 32

end Shortlist.Random
