import Mathlib.Data.List.Basic
import Mathlib.Data.List.TakeDrop
import Mathlib.Data.List.TakeWhile
import Shortlist.Settings.Overrides
import Shortlist.Settings.Validation

/-!
# Ports

A port is written with decimal digits, as many of them as one likes, whose value does not exceed
65535, and a plus sign may stand before them (`Port.Writes`). The reader of ports reads exactly the
texts that write one, as the port that they write (`Port.read_eq_ok_iff`).

The address that listens on a port is read back as the socket address of all interfaces with this
port (`Settings.parse?_listenOn`). Both facts come down to the value that digits have in the core
library, `Nat.ofDigitChars`, which the two readers build up in their own ways (`foldlM_addDigit`,
`numberOf_eq`).
-/

namespace Shortlist

open Shortlist.Text (isDigit numberOf hexValue?)

/-! ## Values of digits -/

/-- The digits of this library are those of the core library. -/
theorem isDigit_eq (c : Char) : isDigit c = c.isDigit := rfl

/-- Digits behind a number do not make it smaller. -/
theorem le_ofDigitChars (ds : List Char) (n : Nat) : n ≤ Nat.ofDigitChars 10 ds n := by
  induction ds generalizing n with
  | nil => simp
  | cons c ds ih =>
    have hlater := ih (10 * n + (c.toNat - '0'.toNat))
    rw [Nat.ofDigitChars_cons]
    omega

/-- A decimal digit has its value in base sixteen too. -/
theorem hexValue?_of_isDigit {c : Char} (h : c.isDigit = true) :
    hexValue? c = some (c.toNat - '0'.toNat) := by
  have hbounds : 0x30 ≤ c.toNat ∧ c.toNat ≤ 0x39 := by
    simp only [Char.isDigit, Bool.and_eq_true, decide_eq_true_eq, ge_iff_le,
      UInt32.le_iff_toNat_le] at h
    exact h
  unfold hexValue?
  exact if_pos hbounds

/-- The number that decimal digits write is their value. -/
theorem numberOf_eq {ds : List Char} (h : ∀ c ∈ ds, c.isDigit = true) :
    numberOf 10 ds = Nat.ofDigitChars 10 ds 0 := by
  rw [numberOf, Nat.ofDigitChars_eq_foldl]
  refine List.foldl_ext _ _ 0 fun n c hc => ?_
  rw [hexValue?_of_isDigit (h c hc), Option.getD_some]

/-! ## What the reader of ports accepts -/

namespace Port

/-- Digits that write a port. -/
structure Digits (ds : List Char) (n : Nat) : Prop where
  ne_nil : ds ≠ []
  digit : ∀ c ∈ ds, c.isDigit = true
  value : Nat.ofDigitChars 10 ds 0 = n
  fits : n ≤ 65535

/-- A text that writes a port: its digits, with a plus sign or without. -/
inductive Writes : List Char → Nat → Prop
  | unsigned {ds : List Char} {n : Nat} (digits : Digits ds n) : Writes ds n
  | signed {ds : List Char} {n : Nat} (digits : Digits ds n) : Writes ('+' :: ds) n

/-- A port fits sixteen bits. -/
theorem Writes.le {cs : List Char} {n : Nat} (h : Writes cs n) : n ≤ 65535 := by
  cases h with
  | unsigned digits | signed digits => exact digits.fits

/-- Reading goes on from a number that fits to one that fits, digit by digit. -/
theorem foldlM_addDigit {ds : List Char} {start n : Nat} (hstart : start ≤ greatest) :
    ds.foldlM addDigit start = .ok n ↔
      (∀ c ∈ ds, c.isDigit = true) ∧ Nat.ofDigitChars 10 ds start = n ∧ n ≤ greatest := by
  induction ds generalizing start with
  | nil =>
    simp only [List.foldlM_nil, pure, Except.pure, Except.ok.injEq, List.not_mem_nil,
      false_implies, implies_true, true_and, Nat.ofDigitChars_nil]
    constructor
    · rintro rfl
      exact ⟨rfl, hstart⟩
    · exact fun h => h.1
  | cons c ds ih =>
    rw [List.foldlM_cons, Nat.ofDigitChars_cons]
    by_cases hdigit : c.isDigit = true
    · by_cases hfits : greatest < 10 * start + (c.toNat - '0'.toNat)
      · -- The number is too large already, and more digits do not make it smaller.
        have hstep : addDigit start c = .error .tooLarge := by
          rw [addDigit, isDigit_eq, if_pos hdigit]
          exact if_pos hfits
        rw [hstep]
        constructor
        · intro h
          cases h
        · rintro ⟨-, hvalue, hn⟩
          have hlarge := le_ofDigitChars ds (10 * start + (c.toNat - '0'.toNat))
          omega
      · have hstep : addDigit start c = .ok (10 * start + (c.toNat - '0'.toNat)) := by
          rw [addDigit, isDigit_eq, if_pos hdigit]
          exact if_neg hfits
        rw [hstep]
        refine (ih (Nat.le_of_not_lt hfits)).trans ?_
        simp only [List.mem_cons, forall_eq_or_imp, hdigit, true_and]
    · have hstep : addDigit start c = .error .notDigit := by
        unfold addDigit
        exact if_neg hdigit
      rw [hstep]
      constructor
      · intro h
        cases h
      · rintro ⟨hall, -⟩
        exact absurd (hall c List.mem_cons_self) hdigit

/-- A text without a sign is read by its digits. -/
theorem foldlM_addDigit_eq_ok_iff {ds : List Char} {n : Nat} (h : ds ≠ []) :
    ds.foldlM addDigit 0 = .ok n ↔ Digits ds n := by
  rw [foldlM_addDigit (by decide)]
  exact ⟨fun ⟨hdigit, hvalue, hfits⟩ => ⟨h, hdigit, hvalue, hfits⟩,
    fun hd => ⟨hd.digit, hd.value, hd.fits⟩⟩

/-- The reader reads the texts that write a port, as this port. -/
theorem read_eq_ok_iff {cs : List Char} {n : Nat} : read cs = .ok n ↔ Writes cs n := by
  have hplus : ¬ '+'.isDigit = true := by decide
  unfold read
  split
  · -- Nothing is written.
    constructor
    · intro h
      cases h
    · rintro ⟨hdigits⟩
      exact absurd rfl hdigits.ne_nil
  · -- Only a sign is written.
    constructor
    · intro h
      cases h
    · rintro (hdigits | hdigits)
      · exact absurd (hdigits.digit _ List.mem_cons_self) hplus
      · exact absurd rfl hdigits.ne_nil
  · -- Something is written behind a sign.
    rename_i ds hds
    have hne : ds ≠ [] := by
      rintro rfl
      exact hds rfl
    rw [foldlM_addDigit_eq_ok_iff hne]
    constructor
    · exact .signed
    · rintro (hdigits | hdigits)
      · exact absurd (hdigits.digit _ List.mem_cons_self) hplus
      · exact hdigits
  · -- Something is written without a sign.
    rename_i hne _ hunsigned
    rw [foldlM_addDigit_eq_ok_iff hne]
    constructor
    · exact .unsigned
    · rintro (hdigits | hdigits)
      · exact hdigits
      · exact absurd rfl (hunsigned _)

end Port

/-! ## The address that listens on a port -/

/-- A number of decimal digits is read back from its text. -/
theorem Address.Socket.readNumber_toDigits {greatest n : Nat} (h : n ≤ greatest) :
    readNumber greatest (Nat.toDigits 10 n) = some (n, []) := by
  have hdigit : ∀ c ∈ Nat.toDigits 10 n, isDigit c = true :=
    fun c hc => Nat.isDigit_of_mem_toDigits (by decide) (by decide) hc
  have hspan : (Nat.toDigits 10 n).span isDigit = (Nat.toDigits 10 n, []) := by
    rw [List.span_eq_takeWhile_dropWhile, List.takeWhile_eq_self_iff.mpr hdigit,
      List.dropWhile_eq_nil_iff.mpr hdigit]
  have hvalue : numberOf 10 (Nat.toDigits 10 n) = n := by
    rw [numberOf_eq hdigit, Nat.ofDigitChars_ten_toDigits]
  have hne : (Nat.toDigits 10 n).isEmpty = false := by
    simp [Nat.toDigits_ne_nil]
  unfold readNumber
  rw [hspan]
  simp only [hvalue, hne]
  rw [if_neg (by simp; omega)]

/-- The address that listens on a port is the socket address of all interfaces with this port. -/
theorem Settings.parse?_listenOn {n : Nat} (h : n ≤ 65535) :
    Address.Socket.parse? (listenOn n) = some (.v4 ⟨0, 0, 0, 0⟩ (UInt16.ofNat n)) := by
  have htext : (listenOn n).toList = "0.0.0.0:".toList ++ Nat.toDigits 10 n := by
    simp only [listenOn, String.toList_append, Nat.toString_eq_ofList_toDigits,
      String.toList_ofList]
  have haddress : ∀ rest, Address.V4.read ("0.0.0.0:".toList ++ rest) =
      some (⟨0, 0, 0, 0⟩, ':' :: rest) := fun rest => rfl
  have hport : Address.Socket.readPort (':' :: Nat.toDigits 10 n) =
      some (UInt16.ofNat n, []) :=
    congrArg (Option.map _) (Address.Socket.readNumber_toDigits h)
  have hread : Address.Socket.readV4 (listenOn n).toList =
      some (.v4 ⟨0, 0, 0, 0⟩ (UInt16.ofNat n), []) := by
    simp only [Address.Socket.readV4, htext, haddress, hport, Option.bind_eq_bind,
      Option.bind_some, Option.pure_def]
  simp only [Address.Socket.parse?, hread, Option.some_or]

end Shortlist
