import Mathlib
import Shortlist.Proofs.Random.Threshold
import Shortlist.Random.Seeded

/-!
# Draws from the unit interval

A draw of the seeded source is put together from its fields: `unitOf k` is the number with the
exponent and the fraction of `k / 2^53`. This module reads it back. A bit pattern with an exponent
field that is neither the least nor the greatest unpacks to these fields (`unpack_ofBits`), so
`unitOf k` has the mantissa `k * 2^(52 - b)` at the exponent `b - 105`, where `b` is the number of
places of `k` behind the leading one (`unpack_unitOf`): it is `k / 2^53` without rounding. Below
`2^53`, `k` has at most 52 such places, and the exponent is below that of one (`unitOf_mem`).
-/

open Float.Model (Format UnpackedFloat)
open Float.Model.UnpackedFloat

namespace Shortlist.Random

/-! ## A normal number and its bits -/

/-- An exponent field keeps its value in 11 bits. -/
theorem toNat_exponent {e : Nat} (he : e < 2047) : (BitVec.ofNat 11 e).toNat = e := by
  rw [BitVec.toNat_ofNat]
  omega

/-- An exponent field below the greatest is not the one of infinities and of what is no number. -/
theorem ofNat_ne_max {e : Nat} (he : e < 2047) : BitVec.ofNat 11 e ≠ -1#11 := by
  intro h
  have hnat : e = 2047 := (toNat_exponent he).symm.trans (congrArg BitVec.toNat h)
  omega

/-- A fraction keeps its value in 52 bits. -/
theorem toNat_fraction {f : Nat} (hf : f < 2^52) : (BitVec.ofNat 52 f).toNat = f := by
  rw [BitVec.toNat_ofNat, Nat.mod_eq_of_lt hf]

/-- A mantissa is its fraction behind a leading one. -/
theorem toNat_mantissa {f : Nat} (hf : f < 2^52) :
    (1#1 ++ BitVec.ofNat 52 f).toNat = 2^52 + f := by
  rw [BitVec.toNat_append, toNat_fraction hf, ← Nat.shiftLeft_add_eq_or_of_lt hf]
  rfl

section

variable {e f : Nat} (he : e < 2047) (hf : f < 2^52)

include he hf

/-- A positive bit pattern is its exponent field followed by its fraction. -/
theorem toBitVec_fields :
    (UInt64.ofNat (e * 2^52 + f)).toBitVec =
      packComponents Format.binary64 .positive (BitVec.ofNat 11 e) (BitVec.ofNat 52 f) := by
  apply BitVec.eq_of_toNat_eq
  have hword : (UInt64.ofNat (e * 2^52 + f)).toBitVec.toNat = e * 2^52 + f := by
    show (UInt64.ofNat (e * 2^52 + f)).toNat = _
    rw [UInt64.toNat_ofNat']
    omega
  have hfields : (0#1 ++ BitVec.ofNat 11 e ++ BitVec.ofNat 52 f).toNat = e * 2^52 + f := by
    rw [BitVec.toNat_append, BitVec.toNat_append, toNat_exponent he, toNat_fraction hf,
      ← Nat.shiftLeft_add_eq_or_of_lt hf, Nat.shiftLeft_eq]
    simp
  rw [hword]
  exact hfields.symm

/-- Fields with an exponent field that is neither the least nor the greatest unpack to a positive
number with a leading one. -/
theorem unpack_fields (hpos : 0 < e) :
    unpack Format.binary64
        (packComponents Format.binary64 .positive (BitVec.ofNat 11 e) (BitVec.ofNat 52 f)) =
      .finite .positive (2^52 + f) (e - 1075) (by omega) := by
  have hexponent := toNat_exponent he
  have hmantissa := toNat_mantissa hf
  have hmin : BitVec.ofNat 11 e ≠ 0#11 := by
    intro h
    have hnat : e = 0 := hexponent.symm.trans (congrArg BitVec.toNat h)
    omega
  unfold unpack
  simp only [unpackMantissa_packComponents, unpackExponent_packComponents]
  rw [if_neg (ofNat_ne_max he), if_neg hmin]
  congr 1
  · rw [unpackSign_packComponents]
    rfl
  · show ((BitVec.ofNat 11 e).toNat : Int) - (1023 + 52) = e - 1075
    rw [hexponent]
    omega

/-- A bit pattern with such fields is kept as it is, and unpacks to this number. -/
theorem unpack_ofBits (hpos : 0 < e) :
    (Float.ofBits (UInt64.ofNat (e * 2^52 + f))).toModel.unpack =
      .finite .positive (2^52 + f) (e - 1075) (by omega) := by
  have hnumber : ¬ isNaNBits
      (packComponents Format.binary64 .positive (BitVec.ofNat 11 e) (BitVec.ofNat 52 f)) := by
    intro h
    have hmax := (of_decide_eq_true h).1
    rw [unpackExponent_packComponents] at hmax
    exact ofNat_ne_max he hmax
  show unpack Format.binary64 (pack Format.binary64
    (unpack Format.binary64 (UInt64.ofNat (e * 2^52 + f)).toBitVec)) = _
  rw [toBitVec_fields he hf, pack_unpack, if_neg hnumber, unpack_fields he hf hpos]

end

/-! ## The draw -/

section

variable {k : Nat} (hpos : 0 < k) (hk : k < 2^53)

include hpos hk

/-- Below `2^53` there are at most 52 places behind the leading one. -/
theorem log2_le_52 : k.log2 ≤ 52 := by
  have hlog := (Nat.log2_lt (Nat.ne_of_gt hpos)).mpr hk
  omega

/-- Moved to the front, the places of `k` and its leading one are a mantissa. -/
theorem mantissa_eq :
    2^52 + (k - 2^k.log2) * 2^(52 - k.log2) = k * 2^(52 - k.log2) ∧
      (k - 2^k.log2) * 2^(52 - k.log2) < 2^52 := by
  obtain ⟨hlow, hhigh⟩ := (Nat.log2_eq_iff (Nat.ne_of_gt hpos)).mp (rfl : k.log2 = k.log2)
  have hlog := log2_le_52 hpos hk
  have hone : 2^k.log2 * 2^(52 - k.log2) = 2^52 := by
    rw [← Nat.pow_add]
    congr 1
    omega
  have htop : k * 2^(52 - k.log2) < 2^53 := by
    calc k * 2^(52 - k.log2) < 2^(k.log2 + 1) * 2^(52 - k.log2) :=
          Nat.mul_lt_mul_of_pos_right hhigh (Nat.two_pow_pos _)
      _ = 2^53 := by
          rw [← Nat.pow_add]
          congr 1
          omega
  have hbottom := Nat.mul_le_mul_right (2^(52 - k.log2)) hlow
  rw [hone] at hbottom
  rw [Nat.sub_mul, hone]
  constructor <;> omega

/-- A draw is `k / 2^53`: its mantissa is `k`, moved by as many places as its exponent is below
`-53`. -/
theorem unpack_unitOf :
    ∃ h, (unitOf k).toModel.unpack =
      .finite .positive (k * 2^(52 - k.log2)) (k.log2 - 105) h := by
  have hlog := log2_le_52 hpos hk
  obtain ⟨hmantissa, hplaces⟩ := mantissa_eq hpos hk
  have hbits : unitOf k = Float.ofBits (UInt64.ofNat ((970 + k.log2) * 2^52 +
      (k - 2^k.log2) * 2^(52 - k.log2))) := by
    have hbias : 1023 + k.log2 - 53 = 970 + k.log2 := by omega
    unfold unitOf
    rw [if_neg (Nat.ne_of_gt hpos)]
    simp only [Nat.pow_eq, hbias]
  have hexponent : ((970 + k.log2 : Nat) : Int) - 1075 = k.log2 - 105 := by omega
  have hunpack := unpack_ofBits (e := 970 + k.log2) (by omega) hplaces (by omega)
  simp only [hmantissa, hexponent] at hunpack
  refine ⟨Nat.mul_pos hpos (Nat.two_pow_pos _), ?_⟩
  rw [hbits, hunpack]

end

/-- A draw is in the unit interval, its upper end excluded. -/
theorem unitOf_mem {k : Nat} (hk : k < 2^53) : 0 ≤ unitOf k ∧ unitOf k < 1 := by
  rcases Nat.eq_zero_or_pos k with rfl | hpos
  · rw [unitOf, if_pos rfl]
    decide
  · obtain ⟨hmantissa, hunpack⟩ := unpack_unitOf hpos hk
    have hlog := log2_le_52 hpos hk
    have hplace : toLex (1, toLex ((k.log2 : Int) - 105, ((k * 2^(52 - k.log2) : Nat) : Int))) ∈
        place? (unitOf k).toModel.unpack := by
      rw [hunpack]
      rfl
    constructor
    · have hzero : toLex (0, toLex (0, 0)) ∈ place? (0 : Float).toModel.unpack := by decide
      refine (le_iff_place _ _).mpr ⟨_, hzero, _, hplace, ?_⟩
      -- Zero lies before all positive numbers.
      exact le_of_lt (Prod.Lex.toLex_lt_toLex.mpr (Or.inl Int.zero_lt_one))
    · have hone : toLex (1, toLex (-52, 2^52)) ∈ place? (1 : Float).toModel.unpack := by decide
      refine (lt_iff_place _ _).mpr ⟨_, hplace, _, hone, ?_⟩
      -- Of two positive numbers the exponent decides.
      have hexponent : (k.log2 : Int) - 105 < -52 := by omega
      exact Prod.Lex.toLex_lt_toLex.mpr
        (Or.inr ⟨rfl, Prod.Lex.toLex_lt_toLex.mpr (Or.inl hexponent)⟩)

end Shortlist.Random
