import Mathlib.Data.List.Forall2
import Mathlib.Data.Set.Operations
import Shortlist.Proofs.Selection.Draw
import Shortlist.Random.Seeded

/-!
# Choices from a range

`WordStream.below n` chooses from `n` values by the upper half of a word times `n`, with a carry
from a second word. The carry never makes the choice `n`: it comes about only if the product and the
upper half of the second product together reach the next multiple of `wordValues`, and they stay
below `n` times `wordValues` (`below_lt`). So the choices for a list of ranges are each below their
range (`choices_mem`). `choiceVectors` is the set of all vectors of which that can be said, and
where no range has more values than a word, each of them is the answer of some stream
(`range_choices`).
-/

namespace Shortlist.Random

/-! ## Vectors of choices -/

/-- The vectors with one choice for each range. -/
def choiceVectors (ranges : List Nat) : Set (List Nat) :=
  {choices | List.Forall₂ (· < ·) choices ranges}

/-- Without ranges there is one vector, that without choices. -/
theorem choiceVectors_nil : choiceVectors [] = {[]} := by
  ext choices
  exact List.forall₂_nil_right_iff

/-- A vector for a range and others is a choice for that range, followed by a vector for the
others. -/
theorem mem_choiceVectors_cons {range : Nat} {ranges choices : List Nat} :
    choices ∈ choiceVectors (range :: ranges) ↔
      ∃ c cs, c < range ∧ cs ∈ choiceVectors ranges ∧ choices = c :: cs :=
  List.forall₂_cons_right_iff

/-- A vector for some ranges and one more is a vector for these, followed by a choice for that
one. -/
theorem mem_choiceVectors_concat {range : Nat} {ranges choices : List Nat} :
    choices ∈ choiceVectors (ranges ++ [range]) ↔
      ∃ cs c, cs ∈ choiceVectors ranges ∧ c < range ∧ choices = cs ++ [c] := by
  constructor
  · intro h
    -- Seen from the end, the last range comes first.
    have hreverse : choices.reverse ∈ choiceVectors (range :: ranges.reverse) := by
      have hends := List.forall₂_reverse_iff.mpr h
      rw [List.reverse_append] at hends
      exact hends
    obtain ⟨c, cs, hc, hcs, heq⟩ := mem_choiceVectors_cons.mp hreverse
    refine ⟨cs.reverse, c, ?_, hc, ?_⟩
    · rw [← List.reverse_reverse ranges]
      exact List.forall₂_reverse_iff.mpr hcs
    · rw [← List.reverse_reverse choices, heq, List.reverse_cons]
  · rintro ⟨cs, c, hcs, hc, rfl⟩
    exact List.rel_append hcs (List.Forall₂.cons hc .nil)

/-- A vector has as many choices as there are ranges. -/
theorem length_of_mem_choiceVectors {ranges choices : List Nat}
    (h : choices ∈ choiceVectors ranges) : choices.length = ranges.length :=
  List.Forall₂.length_eq h

/-! ## What is chosen -/

/-- The samples of so many positions below a length. -/
def samples (length amount : Nat) : Set (List Nat) := {positions | IsSample length amount positions}

/-- The lists of so many different entries of a table, in every order. -/
def arrangements {α : Type} (table : List α) (amount : Nat) : Set (List α) :=
  {entries | entries.Nodup ∧ entries.length = amount ∧ ∀ entry ∈ entries, entry ∈ table}

/-- There is one arrangement of no entries. -/
theorem arrangements_zero {α : Type} (table : List α) : arrangements table 0 = {[]} := by
  ext entries
  constructor
  · rintro ⟨-, hlength, -⟩
    exact List.eq_nil_of_length_eq_zero hlength
  · rintro rfl
    exact ⟨List.nodup_nil, rfl, by simp⟩

/-- A sample is an arrangement of positions. -/
theorem samples_eq (length amount : Nat) :
    samples length amount = arrangements (List.range length) amount := by
  ext positions
  constructor
  · intro h
    exact ⟨h.nodup, h.length_eq, fun p hp => List.mem_range.mpr (h.lt_length p hp)⟩
  · rintro ⟨hnodup, hlength, hmem⟩
    exact ⟨hlength, hnodup, fun p hp => List.mem_range.mp (hmem p hp)⟩

/-- There is one sample of no positions. -/
theorem samples_zero (length : Nat) : samples length 0 = {[]} := by
  rw [samples_eq, arrangements_zero]

namespace WordStream

/-! ## Choices of a stream -/

/-- A word is below `wordValues`, so its product with `n` is at least `n` short of that of
`wordValues`. -/
theorem word_mul_add_le (w : UInt32) (n : Nat) : w.toNat * n + n ≤ wordValues * n := by
  have hword : w.toNat + 1 ≤ wordValues := w.toNat_lt
  calc w.toNat * n + n = (w.toNat + 1) * n := (Nat.succ_mul _ _).symm
    _ ≤ wordValues * n := Nat.mul_le_mul_right n hword

/-- A choice, in terms of the products of its two words with `n`; the second word counts only where
the lower half of the first product is close to the top. -/
theorem below_fst (n : Nat) (s : WordStream) :
    (s.below n).1 =
      let p := s.next.1.toNat * n
      let q := s.next.2.next.1.toNat * n
      if wordValues - n < p % wordValues ∧ wordValues ≤ p % wordValues + q / wordValues then
        p / wordValues + 1
      else p / wordValues := by
  unfold below
  dsimp only
  split
  · rename_i hclose
    simp only [hclose, true_and]
  · rename_i hclear
    rw [if_neg fun h => hclear h.1]

/-- A choice from `n` values is below `n`, with or without a carry. -/
theorem below_lt {n : Nat} (hpos : 0 < n) (s : WordStream) : (s.below n).1 < n := by
  have hfirst := word_mul_add_le s.next.1 n
  have hsecond := word_mul_add_le s.next.2.next.1 n
  rw [below_fst]
  dsimp only
  generalize s.next.1.toNat * n = p at *
  generalize s.next.2.next.1.toNat * n = q at *
  unfold wordValues at *
  split
  · -- The first product and the upper half of the second stay below `n` times `wordValues`.
    omega
  · omega

/-- A stream answers ranges with a vector of choices. -/
theorem choices_mem {ranges : List Nat} (hpos : ∀ n ∈ ranges, 0 < n) (s : WordStream) :
    (s.choices ranges).1 ∈ choiceVectors ranges := by
  induction ranges generalizing s with
  | nil => exact List.Forall₂.nil
  | cons n ns ih =>
    obtain ⟨hn, hns⟩ := List.forall_mem_cons.mp hpos
    exact List.Forall₂.cons (below_lt hn s) (ih hns (s.below n).2)

/-- Every value below `n` is chosen by some word, and the draws can go on from any stream. -/
theorem exists_below_eq {n c : Nat} (hc : c < n) (hn : n ≤ wordValues) (later : WordStream) :
    ∃ s : WordStream, s.below n = (c, later) := by
  -- The smallest word whose product with `n` has `c` for its upper half.
  obtain ⟨w, hw, hlow, hhigh⟩ : ∃ w, w < wordValues ∧ c * wordValues ≤ w * n ∧
      w * n < c * wordValues + n := by
    have hpos : 0 < n := Nat.zero_lt_of_lt hc
    refine ⟨(c * wordValues + (n - 1)) / n, ?_, ?_, ?_⟩
    · rw [Nat.div_lt_iff_lt_mul hpos]
      have hmul : (c + 1) * wordValues ≤ n * wordValues := Nat.mul_le_mul_right wordValues hc
      rw [Nat.succ_mul] at hmul
      rw [Nat.mul_comm wordValues n]
      omega
    · have hdiv : _ < (c * wordValues + (n - 1)) / n * n + n := Nat.lt_div_mul_add hpos
      omega
    · have hdiv := Nat.div_mul_le_self (c * wordValues + (n - 1)) n
      omega
  have hword : (UInt32.ofNat w).toNat = w := UInt32.toNat_ofNat_of_lt' hw
  have hupper : w * n / wordValues = c := by
    unfold wordValues at *
    omega
  have hlower : w * n % wordValues < wordValues := Nat.mod_lt _ (Nat.two_pow_pos 32)
  by_cases hclose : wordValues - n < w * n % wordValues
  · -- A second word of zero carries nothing.
    refine ⟨{ later with pending := UInt32.ofNat w :: 0 :: later.pending }, ?_⟩
    unfold below
    simp only [next, hword, if_pos hclose, UInt32.toNat_zero, Nat.zero_mul, Nat.zero_div,
      Nat.add_zero, if_neg (Nat.not_le.mpr hlower), hupper]
  · refine ⟨{ later with pending := UInt32.ofNat w :: later.pending }, ?_⟩
    unfold below
    simp only [next, hword, if_neg hclose, hupper]

/-- The vectors that the streams answer for some ranges are the vectors with one choice for each. -/
theorem range_choices {ranges : List Nat} (hranges : ∀ n ∈ ranges, 0 < n ∧ n ≤ wordValues) :
    Set.range (fun s : WordStream => (s.choices ranges).1) = choiceVectors ranges := by
  have hanswer : ∀ cs ∈ choiceVectors ranges, ∀ later : WordStream,
      ∃ s : WordStream, s.choices ranges = (cs, later) := by
    induction ranges with
    | nil =>
      intro cs hcs later
      obtain rfl := List.forall₂_nil_right_iff.mp hcs
      exact ⟨later, rfl⟩
    | cons n ns ih =>
      intro cs hcs later
      obtain ⟨hn, hns⟩ := List.forall_mem_cons.mp hranges
      obtain ⟨c, others, hc, hothers, rfl⟩ := mem_choiceVectors_cons.mp hcs
      -- The words for the first choice come before those for the others.
      obtain ⟨behind, hbehind⟩ := ih hns others hothers later
      obtain ⟨s, hs⟩ := exists_below_eq hc hn.2 behind
      refine ⟨s, ?_⟩
      rw [choices, hs]
      simp only [hbehind]
  ext cs
  constructor
  · rintro ⟨s, rfl⟩
    exact choices_mem (fun n hn => (hranges n hn).1) s
  · intro hcs
    obtain ⟨s, hs⟩ := hanswer cs hcs (.ofSeed 0)
    exact ⟨s, congrArg Prod.fst hs⟩

/-- A carry: the words are the whole third of all values below, and the last value of all. -/
example : (below 3 ⟨[], 0, [0x55555555, 0xFFFFFFFF]⟩).1 = 1 := by decide +kernel

end WordStream

end Shortlist.Random
