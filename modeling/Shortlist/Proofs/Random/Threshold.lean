import Mathlib.Algebra.Order.Group.Int
import Mathlib.Data.Prod.Lex
import Mathlib.Order.Compare
import Shortlist.Random.Source

/-!
# Draws and the thresholds they are held against

A decision at random is a draw held against a threshold. `RandomSource.drawn` numbers the draws
that a source makes one after the other, and the rest of this module is the order of the numbers
that draws and thresholds are: each has a place on a line (`place?`), numbers compare as their
places do (`compare_eq`), and one that is no number has no place and lies below nothing. So a higher
threshold is passed by every draw that passes a lower one (`Random.lt_of_lt_of_le`).
-/

open Float.Model (UnpackedFloat)

namespace Shortlist

namespace RandomSource

variable {σ : Type} [RandomSource σ]

/-- A source after a number of draws. -/
def after (source : σ) : Nat → σ
  | 0 => source
  | n + 1 => (unit (after source n)).2

/-- The draws of a source, one after the other. -/
def drawn (source : σ) (n : Nat) : Float := (unit (after source n)).1

/-- A tally counts every draw. -/
theorem units_after (source : Random.Tallied σ) (n : Nat) :
    (after source n).units = source.units + n := by
  induction n with
  | zero => rfl
  | succ n ih =>
    show (after source n).units + 1 = source.units + (n + 1)
    rw [ih, Nat.add_assoc]

end RandomSource

namespace Random

/-! ## The order of numbers -/

/-- Where a number lies on the line: on which side of zero and whether at infinity, then how great
its exponent is, then its mantissa. -/
def place? : UnpackedFloat → Option (ℤ ×ₗ ℤ ×ₗ ℤ)
  | .notANumber => none
  | .infinity .negative => some (toLex (-2, toLex (0, 0)))
  | .finite .negative mantissa exponent _ => some (toLex (-1, toLex (-exponent, -mantissa)))
  | .zero _ => some (toLex (0, toLex (0, 0)))
  | .finite .positive mantissa exponent _ => some (toLex (1, toLex (exponent, mantissa)))
  | .infinity .positive => some (toLex (2, toLex (0, 0)))

/-- Pairs compare by their first components, and then by their second ones. -/
theorem compare_toLex {α β : Type} [LinearOrder α] [LinearOrder β] (a a' : α) (b b' : β) :
    compare (toLex (a, b)) (toLex (a', b')) = (compare a a').then (compare b b') := by
  rw [Prod.Lex.compare_def]
  rfl

theorem compare_neg_neg (i j : ℤ) : compare (-i) (-j) = (compare i j).swap := by
  have hanti : StrictAnti fun i : ℤ => -i := fun _ _ => Int.neg_lt_neg
  rw [← cmp_eq_compare, ← cmp_eq_compare, cmp_swap]
  exact hanti.cmp_map_eq i j

theorem compare_cast (m n : ℕ) : compare (m : ℤ) (n : ℤ) = compare m n := by
  have hmono : StrictMono fun n : ℕ => (n : ℤ) := fun _ _ => Int.ofNat_lt.mpr
  rw [← cmp_eq_compare, ← cmp_eq_compare]
  exact hmono.cmp_map_eq m n

/-- Numbers compare as their places do. -/
theorem compare_eq (a b : UnpackedFloat) :
    a.compare b = (place? a).bind fun x => (place? b).map fun y => compare x y := by
  rcases a with (_ | _) | _ | _ | ⟨_ | _, mantissa, exponent, _⟩ <;>
    rcases b with (_ | _) | _ | _ | ⟨_ | _, mantissa', exponent', _⟩
  -- Two finite numbers on the same side of zero; all others differ in their first component.
  case finite.negative.finite.negative =>
    show some ((compare exponent exponent').then (compare mantissa mantissa')).swap =
      some (compare (toLex (-1, toLex (-exponent, -(mantissa : ℤ))))
        (toLex (-1, toLex (-exponent', -(mantissa' : ℤ)))))
    rw [compare_toLex, compare_toLex, compare_neg_neg exponent exponent',
      compare_neg_neg mantissa mantissa', compare_cast, Ordering.swap_then]
    rfl
  case finite.positive.finite.positive =>
    show some ((compare exponent exponent').then (compare mantissa mantissa')) =
      some (compare (toLex (1, toLex (exponent, (mantissa : ℤ))))
        (toLex (1, toLex (exponent', (mantissa' : ℤ)))))
    rw [compare_toLex, compare_toLex, compare_cast]
    rfl
  all_goals rfl

/-- Numbers are ordered in a certain way if they have places, and these are. -/
theorem any_compare_iff (a b : UnpackedFloat) (p : Ordering → Bool) :
    (a.compare b).any p = true ↔ ∃ x ∈ place? a, ∃ y ∈ place? b, p (compare x y) = true := by
  rw [compare_eq]
  cases place? a with
  | none => simp
  | some x =>
    cases place? b with
    | none => simp
    | some y => simp

/-- A number is below another if its place is. -/
theorem lt_iff_place (a b : Float) :
    a < b ↔ ∃ x ∈ place? a.toModel.unpack, ∃ y ∈ place? b.toModel.unpack, x < y := by
  have hmodel : a < b ↔ (a.toModel.unpack.compare b.toModel.unpack).any (· = .lt) = true := by
    show decide (a.toModel.unpack.lt b.toModel.unpack = true) = true ↔ _
    rw [decide_eq_true_iff, UnpackedFloat.lt]
    cases a.toModel.unpack.compare b.toModel.unpack <;> simp
  rw [hmodel, any_compare_iff]
  simp only [decide_eq_true_eq, compare_lt_iff_lt]

/-- A number is at most another if its place is. -/
theorem le_iff_place (a b : Float) :
    a ≤ b ↔ ∃ x ∈ place? a.toModel.unpack, ∃ y ∈ place? b.toModel.unpack, x ≤ y := by
  have hmodel : a ≤ b ↔ (a.toModel.unpack.compare b.toModel.unpack).any (·.isLE) = true := by
    show decide (a.toModel.unpack.le b.toModel.unpack = true) = true ↔ _
    rw [decide_eq_true_iff, UnpackedFloat.le]
  rw [hmodel, any_compare_iff]
  simp only [Ordering.isLE_iff_ne_gt, compare_le_iff_le]

/-- What is below a threshold is below every higher one. -/
theorem lt_of_lt_of_le {u p q : Float} (h : u < p) (hpq : p ≤ q) : u < q := by
  rw [lt_iff_place] at h ⊢
  rw [le_iff_place] at hpq
  obtain ⟨x, hx, y, hy, hxy⟩ := h
  obtain ⟨y', hy', z, hz, hyz⟩ := hpq
  obtain rfl := Option.mem_unique hy hy'
  exact ⟨x, hx, z, hz, hxy.trans_le hyz⟩

/-- What is at most a threshold is at most every higher one. -/
theorem le_trans {u p q : Float} (h : u ≤ p) (hpq : p ≤ q) : u ≤ q := by
  rw [le_iff_place] at h hpq ⊢
  obtain ⟨x, hx, y, hy, hxy⟩ := h
  obtain ⟨y', hy', z, hz, hyz⟩ := hpq
  obtain rfl := Option.mem_unique hy hy'
  exact ⟨x, hx, z, hz, hxy.trans hyz⟩

/-- What is at least a threshold is not below it. -/
theorem not_lt_of_le {u p : Float} (h : p ≤ u) : ¬ u < p := by
  rw [lt_iff_place]
  rw [le_iff_place] at h
  rintro ⟨x, hx, y, hy, hxy⟩
  obtain ⟨y', hy', x', hx', hyx⟩ := h
  obtain rfl := Option.mem_unique hx hx'
  obtain rfl := Option.mem_unique hy hy'
  exact absurd hxy hyx.not_gt

end Random

end Shortlist
