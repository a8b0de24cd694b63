import Mathlib.Data.List.Basic
import Shortlist.Json.Literal

/-!
# Code units

A character is encoded by one code unit of sixteen bits, or by two if its number is beyond `U+FFFF`:
a high half and a low half (`units`). Code units are the text that they encode, read from the front
(`decode`); no other text has them (`decode_eq_some_iff`). They are no text at all exactly if one of
them is a half without its partner (`decode_eq_none_iff`).
-/

namespace Shortlist.Json.Literal

variable {c : Char} {n m : Nat} {us : List Nat} {text : List Char}

/-! ## One character -/

/-- The code units of a character. -/
def units (c : Char) : List Nat :=
  if c.toNat < 0x10000 then [c.toNat]
  else [0xD800 + (c.toNat - 0x10000) / 0x400, 0xDC00 + (c.toNat - 0x10000) % 0x400]

/-- The numbers of characters leave out the halves. -/
theorem toNat_valid (c : Char) : c.toNat < 0xD800 ∨ (0xDFFF < c.toNat ∧ c.toNat < 0x110000) :=
  c.valid

theorem isHigh_iff : isHigh n = true ↔ 0xD800 ≤ n ∧ n ≤ 0xDBFF := by
  simp [isHigh]

theorem isLow_iff : isLow n = true ↔ 0xDC00 ≤ n ∧ n ≤ 0xDFFF := by
  simp [isLow]

/-- A character beyond `U+FFFF` is the one that its two halves are joined to. -/
theorem joined_units (h : ¬ c.toNat < 0x10000) :
    joined (0xD800 + (c.toNat - 0x10000) / 0x400) (0xDC00 + (c.toNat - 0x10000) % 0x400) = c := by
  have hnumber : (0xD800 + (c.toNat - 0x10000) / 0x400 - 0xD800) * 0x400 +
      (0xDC00 + (c.toNat - 0x10000) % 0x400 - 0xDC00) + 0x10000 = c.toNat := by
    omega
  rw [joined, hnumber, Char.ofNat_toNat]

/-- A character has one unit that is no half, or two that are the halves of a pair. -/
theorem units_cases (c : Char) :
    (∃ n, units c = [n] ∧ isHigh n = false ∧ isLow n = false ∧ Char.ofNat n = c) ∨
    ∃ n m, units c = [n, m] ∧ isHigh n = true ∧ isLow m = true ∧ joined n m = c := by
  have hvalid := toNat_valid c
  unfold units
  by_cases hsmall : c.toNat < 0x10000
  · refine Or.inl ⟨c.toNat, if_pos hsmall, ?_, ?_, Char.ofNat_toNat c⟩
    · rw [Bool.eq_false_iff, ne_eq, isHigh_iff]
      omega
    · rw [Bool.eq_false_iff, ne_eq, isLow_iff]
      omega
  · refine Or.inr ⟨_, _, if_neg hsmall, ?_, ?_, joined_units hsmall⟩
    · rw [isHigh_iff]
      omega
    · rw [isLow_iff]
      omega

/-- A number that is no half is the one of its character. -/
theorem toNat_ofNat (h : n < 0xD800 ∨ (0xDFFF < n ∧ n < 0x110000)) : (Char.ofNat n).toNat = n := by
  rw [Char.ofNat, dif_pos h]
  rfl

/-- A unit that is no half is the one of its character. -/
theorem units_ofNat (hn : n < 0x10000) (hhigh : isHigh n = false) (hlow : isLow n = false) :
    units (Char.ofNat n) = [n] := by
  rw [Bool.eq_false_iff, ne_eq, isHigh_iff] at hhigh
  rw [Bool.eq_false_iff, ne_eq, isLow_iff] at hlow
  have hnumber : (Char.ofNat n).toNat = n := toNat_ofNat (by omega)
  rw [units, hnumber, if_pos hn]

/-- The halves of a pair are the units of the character that they are joined to. -/
theorem units_joined (hhigh : isHigh n = true) (hlow : isLow m = true) :
    units (joined n m) = [n, m] := by
  rw [isHigh_iff] at hhigh
  rw [isLow_iff] at hlow
  have hnumber : (joined n m).toNat = (n - 0xD800) * 0x400 + (m - 0xDC00) + 0x10000 :=
    toNat_ofNat (by omega)
  have hfirst : 0xD800 + ((joined n m).toNat - 0x10000) / 0x400 = n := by omega
  have hsecond : 0xDC00 + ((joined n m).toNat - 0x10000) % 0x400 = m := by omega
  rw [units, if_neg (by omega), hfirst, hsecond]

/-! ## Texts -/

/-- The text that code units encode. -/
def decode : List Nat → Option (List Char)
  | [] => some []
  | n :: us =>
    if isHigh n then
      match us with
      | [] => none
      | m :: us => if isLow m then (decode us).map (joined n m :: ·) else none
    else if isLow n then none
    else (decode us).map (Char.ofNat n :: ·)

theorem decode_cons (n : Nat) (us : List Nat) :
    decode (n :: us) =
      if isHigh n then
        match us with
        | [] => none
        | m :: us => if isLow m then (decode us).map (joined n m :: ·) else none
      else if isLow n then none
      else (decode us).map (Char.ofNat n :: ·) := by
  rw [decode.eq_def]

theorem decode_of_whole (hhigh : isHigh n = false) (hlow : isLow n = false) :
    decode (n :: us) = (decode us).map (Char.ofNat n :: ·) := by
  rw [decode_cons]
  simp only [hhigh, hlow, Bool.false_eq_true, if_false]

theorem decode_of_pair (hhigh : isHigh n = true) (hlow : isLow m = true) :
    decode (n :: m :: us) = (decode us).map (joined n m :: ·) := by
  rw [decode_cons]
  simp only [hhigh, hlow, if_true]

theorem isLow_of_isHigh (h : isHigh n = true) : isLow n = false := by
  rw [isHigh_iff] at h
  rw [Bool.eq_false_iff, ne_eq, isLow_iff]
  omega

theorem isHigh_of_isLow (h : isLow n = true) : isHigh n = false := by
  rw [isLow_iff] at h
  rw [Bool.eq_false_iff, ne_eq, isHigh_iff]
  omega

theorem decode_of_low (hlow : isLow n = true) : decode (n :: us) = none := by
  rw [decode_cons]
  simp only [isHigh_of_isLow hlow, hlow, Bool.false_eq_true, if_false, if_true]

/-- A high half that no low half follows is no text. -/
theorem decode_of_high (hhigh : isHigh n = true)
    (hnext : ∀ m, us.head? = some m → isLow m = false) : decode (n :: us) = none := by
  rw [decode_cons, if_pos hhigh]
  cases us with
  | nil => rfl
  | cons m us =>
    have hm : isLow m = false := hnext m rfl
    simp only [hm, Bool.false_eq_true, if_false]

/-- The first unit of a character is no partner of a high half. -/
theorem decode_of_high_units (hhigh : isHigh n = true) (c : Char) (us : List Nat) :
    decode (n :: (units c ++ us)) = none := by
  refine decode_of_high hhigh fun m hm => ?_
  rcases units_cases c with ⟨k, hunits, -, hlow, -⟩ | ⟨k, l, hunits, hfirst, -, -⟩
  · rw [hunits] at hm
    obtain rfl := Option.some.inj hm
    exact hlow
  · rw [hunits] at hm
    obtain rfl := Option.some.inj hm
    exact isLow_of_isHigh hfirst

/-- The units of a character in front are read as this character. -/
theorem decode_units_append (c : Char) (us : List Nat) :
    decode (units c ++ us) = (decode us).map (c :: ·) := by
  rcases units_cases c with ⟨n, hunits, hhigh, hlow, rfl⟩ | ⟨n, m, hunits, hhigh, hlow, rfl⟩
  · rw [hunits, List.singleton_append]
    exact decode_of_whole hhigh hlow
  · rw [hunits]
    exact decode_of_pair hhigh hlow

/-- A text is read from its units. -/
theorem decode_flatMap (text : List Char) : decode (text.flatMap units) = some text := by
  induction text with
  | nil => rfl
  | cons c text ih => rw [List.flatMap_cons, decode_units_append, ih, Option.map_some]

/-- Units of sixteen bits are read as the text that has them. -/
theorem decode_eq_some_iff (hus : ∀ n ∈ us, n < 0x10000) :
    decode us = some text ↔ text.flatMap units = us := by
  constructor
  · intro h
    fun_induction decode us generalizing text with
    | case1 =>
      obtain rfl := Option.some.inj h
      rfl
    | case2 | case4 | case5 => cases h
    | case3 n hhigh m us hlow ih =>
      obtain ⟨later, hlater, rfl⟩ := Option.map_eq_some_iff.mp h
      have hrest := ih (fun x hx => hus x (by simp [hx])) hlater
      rw [List.flatMap_cons, units_joined hhigh hlow, hrest]
      rfl
    | case6 n us hhigh hlow ih =>
      obtain ⟨later, hlater, rfl⟩ := Option.map_eq_some_iff.mp h
      have hrest := ih (fun x hx => hus x (by simp [hx])) hlater
      have hunits := units_ofNat (hus n List.mem_cons_self) (Bool.eq_false_iff.mpr hhigh)
        (Bool.eq_false_iff.mpr hlow)
      rw [List.flatMap_cons, hunits, hrest]
      rfl
  · rintro rfl
    exact decode_flatMap text

/-! ## Halves without a partner -/

/-- Some unit is a high half that no low half follows, or a low half that no high half precedes. -/
def HasLoneHalf (us : List Nat) : Prop :=
  ∃ front n back, us = front ++ n :: back ∧
    ((isHigh n = true ∧ ∀ m, back.head? = some m → isLow m = false) ∨
      (isLow n = true ∧ ∀ m, front.getLast? = some m → isHigh m = false))

/-- A lone half stays one behind units of which the last is no high half. -/
theorem HasLoneHalf.append {front : List Nat} (h : HasLoneHalf us)
    (hfront : ∀ m, front.getLast? = some m → isHigh m = false) : HasLoneHalf (front ++ us) := by
  obtain ⟨before, n, back, rfl, hn⟩ := h
  refine ⟨front ++ before, n, back, (List.append_assoc ..).symm, hn.imp_right ?_⟩
  rintro ⟨hlow, hlast⟩
  refine ⟨hlow, fun m hm => ?_⟩
  rw [List.getLast?_append] at hm
  cases hbefore : before.getLast? with
  | none =>
    rw [hbefore, Option.none_or] at hm
    exact hfront m hm
  | some last =>
    rw [hbefore, Option.some_or] at hm
    exact hlast m (hbefore.trans hm)

/-- The units of a character have no lone half, and are no partners of what follows. -/
theorem HasLoneHalf.of_units_append (h : HasLoneHalf (units c ++ us)) : HasLoneHalf us := by
  obtain ⟨front, x, back, hsplit, hx⟩ := h
  rcases units_cases c with ⟨n, hunits, hhigh, hlow, -⟩ | ⟨n, m, hunits, hhigh, hlow, -⟩
  · rw [hunits] at hsplit
    rcases front with _ | ⟨_, front⟩
    · -- The half would be the only unit.
      obtain ⟨rfl, -⟩ := List.cons.inj hsplit
      simp [hhigh, hlow] at hx
    · obtain ⟨rfl, rfl⟩ := List.cons.inj hsplit
      refine ⟨front, x, back, rfl, hx.imp_right fun ⟨hxlow, hlast⟩ => ⟨hxlow, fun k hk => ?_⟩⟩
      exact hlast k (by rw [List.getLast?_cons, hk, Option.getD_some])
  · have hnlow := isLow_of_isHigh hhigh
    have hmhigh := isHigh_of_isLow hlow
    rw [hunits] at hsplit
    rcases front with _ | ⟨_, _ | ⟨_, front⟩⟩
    · -- The half would be the first of the pair, which the second follows.
      obtain ⟨rfl, rfl⟩ := List.cons.inj hsplit
      simp [hnlow, hlow] at hx
    · -- The half would be the second of the pair, which the first precedes.
      obtain ⟨rfl, hrest⟩ := List.cons.inj hsplit
      obtain ⟨rfl, -⟩ := List.cons.inj hrest
      simp [hmhigh, hhigh] at hx
    · obtain ⟨rfl, hrest⟩ := List.cons.inj hsplit
      obtain ⟨rfl, rfl⟩ := List.cons.inj hrest
      refine ⟨front, x, back, rfl, hx.imp_right fun ⟨hxlow, hlast⟩ => ⟨hxlow, fun k hk => ?_⟩⟩
      exact hlast k (by rw [List.getLast?_cons, List.getLast?_cons, hk]; rfl)

/-- The units of a text have no lone half. -/
theorem not_hasLoneHalf_flatMap (text : List Char) : ¬ HasLoneHalf (text.flatMap units) := by
  induction text with
  | nil =>
    rintro ⟨front, n, back, hsplit, -⟩
    exact absurd hsplit.symm (by simp)
  | cons c text ih =>
    rw [List.flatMap_cons]
    exact fun h => ih h.of_units_append

/-- Units of sixteen bits are no text exactly if one of them is a lone half. -/
theorem decode_eq_none_iff (hus : ∀ n ∈ us, n < 0x10000) :
    decode us = none ↔ HasLoneHalf us := by
  constructor
  · intro h
    fun_induction decode us with
    | case1 => cases h
    | case2 n hhigh =>
      refine ⟨[], n, [], rfl, Or.inl ⟨hhigh, fun m hm => ?_⟩⟩
      cases hm
    | case3 n hhigh m us hlow ih =>
      have hrest := ih (fun x hx => hus x (by simp [hx])) (Option.map_eq_none_iff.mp h)
      show HasLoneHalf ([n, m] ++ us)
      refine hrest.append fun k hk => ?_
      obtain rfl := Option.some.inj hk
      exact isHigh_of_isLow hlow
    | case4 n hhigh m us hlow =>
      refine ⟨[], n, m :: us, rfl, Or.inl ⟨hhigh, fun k hk => ?_⟩⟩
      obtain rfl := Option.some.inj hk
      exact Bool.eq_false_iff.mpr hlow
    | case5 n us hhigh hlow =>
      refine ⟨[], n, us, rfl, Or.inr ⟨hlow, fun m hm => ?_⟩⟩
      cases hm
    | case6 n us hhigh hlow ih =>
      have hrest := ih (fun x hx => hus x (by simp [hx])) (Option.map_eq_none_iff.mp h)
      show HasLoneHalf ([n] ++ us)
      refine hrest.append fun k hk => ?_
      obtain rfl := Option.some.inj hk
      exact Bool.eq_false_iff.mpr hhigh
  · intro h
    rw [Option.eq_none_iff_forall_ne_some]
    intro text htext
    rw [← (decode_eq_some_iff hus).mp htext] at h
    exact not_hasLoneHalf_flatMap text h

end Shortlist.Json.Literal
