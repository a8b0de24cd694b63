import Mathlib.Data.List.Basic
import Mathlib.Data.List.TakeDrop
import Mathlib.Data.List.TakeWhile
import Shortlist.Json.Reader

/-!
# The grammar of JSON numbers

A number is written as a minus, digits without a leading zero, a point with digits, and a letter `e`
with a sign and digits, all but the first digits optional (`IsNumber`). The reader reads such a
number off the front of a text, up to what does not go on with it (`readNumeral_append`), and reads
nothing else (`exists_isNumber_of_readNumeral`). It does not look at the size of the number.
-/

namespace Shortlist.Json

open Shortlist.Text (isDigit)

variable {cs ds rest : List Char}

/-! ## The grammar -/

/-- Decimal digits, at least one. -/
structure Digits (ds : List Char) : Prop where
  ne_nil : ds ≠ []
  digit : ∀ c ∈ ds, isDigit c = true

/-- A point with digits behind it, or nothing. -/
inductive Fraction : List Char → Prop
  | absent : Fraction []
  | point {ds : List Char} (digits : Digits ds) : Fraction ('.' :: ds)

/-- A letter with a sign and digits behind it, or nothing. -/
inductive Exponent : List Char → Prop
  | absent : Exponent []
  | letter {e : Char} {sign ds : List Char} (is_letter : e = 'e' ∨ e = 'E')
    (is_sign : sign = [] ∨ sign = ['+'] ∨ sign = ['-']) (digits : Digits ds) :
    Exponent (e :: (sign ++ ds))

/-- A JSON number without a minus. -/
inductive Unsigned : List Char → Prop
  | parts {ds fraction exponent : List Char} (digits : Digits ds)
    (no_zero : ds.head? = some '0' → ds = ['0']) (is_fraction : Fraction fraction)
    (is_exponent : Exponent exponent) : Unsigned (ds ++ (fraction ++ exponent))

/-- A JSON number. -/
inductive IsNumber : List Char → Prop
  | unsigned {cs : List Char} (number : Unsigned cs) : IsNumber cs
  | negative {cs : List Char} (number : Unsigned cs) : IsNumber ('-' :: cs)

/-- What follows does not go on with digits. -/
def EndsDigits (rest : List Char) : Prop := ∀ c, rest.head? = some c → isDigit c = false

/-- What follows does not go on with a number. -/
def EndsNumber (rest : List Char) : Prop :=
  ∀ c, rest.head? = some c → isDigit c = false ∧ c ≠ '.' ∧ c ≠ 'e' ∧ c ≠ 'E'

theorem EndsNumber.digits (h : EndsNumber rest) : EndsDigits rest := fun c hc => (h c hc).1

theorem Digits.exists_cons (h : Digits ds) : ∃ c ds', ds = c :: ds' ∧ isDigit c = true := by
  cases ds with
  | nil => exact absurd rfl h.ne_nil
  | cons c ds => exact ⟨c, ds, rfl, h.digit c List.mem_cons_self⟩

/-- A number begins with a digit or a minus. -/
theorem IsNumber.exists_cons (h : IsNumber cs) :
    ∃ c cs', cs = c :: cs' ∧ (isDigit c = true ∨ c = '-') := by
  cases h with
  | unsigned number =>
    obtain ⟨hdigits, -, -, -⟩ := number
    obtain ⟨c, ds, rfl, hc⟩ := hdigits.exists_cons
    exact ⟨c, _, rfl, Or.inl hc⟩
  | negative number => exact ⟨'-', _, rfl, Or.inr rfl⟩

/-! ## Digits -/

/-- Digits are read up to the first character that is none. -/
theorem readDigits_eq_some_iff :
    readDigits cs = some (ds, rest) ↔ cs = ds ++ rest ∧ Digits ds ∧ EndsDigits rest := by
  unfold readDigits
  rw [List.span_eq_takeWhile_dropWhile]
  dsimp only
  constructor
  · intro h
    split at h
    · cases h
    · rename_i hne
      obtain ⟨rfl, rfl⟩ := Prod.mk.inj (Option.some.inj h)
      refine ⟨List.takeWhile_append_dropWhile.symm, ⟨?_, ?_⟩, ?_⟩
      · simpa using hne
      · exact fun c hc => List.mem_takeWhile_imp hc
      · intro c hc
        have hfirst := List.head?_dropWhile_not isDigit cs
        rw [hc] at hfirst
        simpa using hfirst
  · rintro ⟨rfl, hdigits, hends⟩
    have hnone : rest.takeWhile isDigit = [] ∧ rest.dropWhile isDigit = rest := by
      cases rest with
      | nil => exact ⟨rfl, rfl⟩
      | cons c rest =>
        have hc : isDigit c = false := hends c rfl
        simp [hc]
    rw [List.takeWhile_append_of_pos hdigits.digit, List.dropWhile_append_of_pos hdigits.digit,
      hnone.1, hnone.2, List.append_nil, if_neg (by simpa using hdigits.ne_nil)]

theorem readWhole_eq_some_iff : readWhole cs = some (ds, rest) ↔
    readDigits cs = some (ds, rest) ∧ (ds.head? = some '0' → ds = ['0']) := by
  unfold readWhole
  split
  · rename_i hread
    simp [hread]
  · rename_i hread
    simp only [hread, reduceCtorEq, Option.some.injEq, Prod.mk.injEq, false_iff]
    rintro ⟨⟨rfl, -⟩, hzero⟩
    simp at hzero
  · rename_i found hnone hzeros
    refine ⟨fun h => ⟨h, fun hhead => ?_⟩, fun h => h.1⟩
    rcases ds with _ | ⟨c, _ | ⟨d, ds⟩⟩
    · cases hhead
    · obtain rfl := Option.some.inj hhead
      rfl
    · obtain rfl := Option.some.inj hhead
      exact absurd h (hzeros _ _ _)

/-! ## The parts of a number -/

/-- A fraction that is read has digits behind its point. -/
theorem exists_fraction_of_read {fraction? : Option (List Char)}
    (h : readFraction cs = some (fraction?, rest)) :
    ∃ fraction, cs = fraction ++ rest ∧ Fraction fraction := by
  unfold readFraction at h
  split at h
  · obtain ⟨⟨ds, _⟩, hdigits, hpair⟩ := Option.map_eq_some_iff.mp h
    obtain ⟨-, rfl⟩ := Prod.mk.inj hpair
    obtain ⟨rfl, hds, -⟩ := readDigits_eq_some_iff.mp hdigits
    exact ⟨_, rfl, .point hds⟩
  · obtain ⟨-, rfl⟩ := Prod.mk.inj (Option.some.inj h)
    exact ⟨[], rfl, .absent⟩

/-- A fraction is read, unless more digits or another point follow. -/
theorem readFraction_append {fraction : List Char} (h : Fraction fraction)
    (hdigits : EndsDigits rest) (hpoint : rest.head? ≠ some '.') :
    ∃ fraction?, readFraction (fraction ++ rest) = some (fraction?, rest) := by
  cases h with
  | absent =>
    refine ⟨none, ?_⟩
    rw [List.nil_append]
    unfold readFraction
    split
    · exact absurd rfl hpoint
    · rfl
  | @point ds hds =>
    refine ⟨some ds, ?_⟩
    have hread : readDigits (ds ++ rest) = some (ds, rest) :=
      readDigits_eq_some_iff.mpr ⟨rfl, hds, hdigits⟩
    rw [List.cons_append, readFraction, hread]
    rfl

theorem readSign_cases (cs : List Char) :
    ∃ sign, (sign = [] ∨ sign = ['+'] ∨ sign = ['-']) ∧ cs = sign ++ (readSign cs).2 := by
  unfold readSign
  split
  · exact ⟨['+'], by simp, rfl⟩
  · exact ⟨['-'], by simp, rfl⟩
  · exact ⟨[], by simp, rfl⟩

/-- An exponent that is read has a letter and digits, with a sign or without. -/
theorem exists_exponent_of_read {exponent? : Option Int}
    (h : readExponent cs = some (exponent?, rest)) :
    ∃ exponent, cs = exponent ++ rest ∧ Exponent exponent := by
  have hletter : ∀ {e : Char} {after : List Char}, e = 'e' ∨ e = 'E' →
      (∃ ds, readDigits (readSign after).2 = some (ds, rest)) →
      ∃ exponent, e :: after = exponent ++ rest ∧ Exponent exponent := by
    rintro e after he ⟨ds, hdigits⟩
    obtain ⟨sign, hsign, hafter⟩ := readSign_cases after
    obtain ⟨hds, hdigits, -⟩ := readDigits_eq_some_iff.mp hdigits
    refine ⟨e :: (sign ++ ds), ?_, .letter he hsign hdigits⟩
    rw [hafter, hds, List.cons_append, List.append_assoc]
  unfold readExponent at h
  split at h
  · obtain ⟨⟨ds, _⟩, hdigits, hpair⟩ := Option.map_eq_some_iff.mp h
    obtain ⟨-, rfl⟩ := Prod.mk.inj hpair
    exact hletter (Or.inl rfl) ⟨ds, hdigits⟩
  · obtain ⟨⟨ds, _⟩, hdigits, hpair⟩ := Option.map_eq_some_iff.mp h
    obtain ⟨-, rfl⟩ := Prod.mk.inj hpair
    exact hletter (Or.inr rfl) ⟨ds, hdigits⟩
  · obtain ⟨-, rfl⟩ := Prod.mk.inj (Option.some.inj h)
    exact ⟨[], rfl, .absent⟩

/-- Behind its letter an exponent is read by its digits. -/
theorem readExponent_letter {e : Char} (he : e = 'e' ∨ e = 'E')
    (h : readDigits (readSign cs).2 = some (ds, rest)) :
    ∃ exponent?, readExponent (e :: cs) = some (exponent?, rest) := by
  rcases he with rfl | rfl <;> exact ⟨_, congrArg (Option.map _) h⟩

/-- An exponent is read, unless more digits or another letter follow. -/
theorem readExponent_append {exponent : List Char} (h : Exponent exponent)
    (hends : EndsNumber rest) :
    ∃ exponent?, readExponent (exponent ++ rest) = some (exponent?, rest) := by
  cases h with
  | absent =>
    refine ⟨none, ?_⟩
    rw [List.nil_append]
    unfold readExponent
    split
    · exact absurd rfl (hends _ rfl).2.2.1
    · exact absurd rfl (hends _ rfl).2.2.2
    · rfl
  | @letter e sign ds is_letter is_sign hds =>
    have hread : readDigits (ds ++ rest) = some (ds, rest) :=
      readDigits_eq_some_iff.mpr ⟨rfl, hds, hends.digits⟩
    have hsign : (readSign (sign ++ (ds ++ rest))).2 = ds ++ rest := by
      rcases is_sign with rfl | rfl | rfl
      · -- The first digit is no sign.
        obtain ⟨c, ds, rfl, hc⟩ := hds.exists_cons
        unfold readSign
        split
        · simp_all [isDigit]
        · simp_all [isDigit]
        · rfl
      · rfl
      · rfl
    rw [List.cons_append, List.append_assoc]
    exact readExponent_letter is_letter (hsign ▸ hread)

/-! ## Numbers -/

/-- Without a minus a number is read, unless what follows goes on with it. -/
theorem readUnsigned_append (h : Unsigned cs) (hends : EndsNumber rest) (negative : Bool) :
    ∃ n, readUnsigned negative (cs ++ rest) = some (n, rest) := by
  obtain ⟨hdigits, hzero, hfraction, hexponent⟩ := h
  rename_i ds fraction exponent
  -- Behind the fraction there is the letter of the exponent, or what ends the number.
  have hbehind : ∀ c, (exponent ++ rest).head? = some c → isDigit c = false ∧ c ≠ '.' := by
    intro c hc
    cases hexponent with
    | absent => exact ⟨(hends c hc).1, (hends c hc).2.1⟩
    | letter is_letter _ _ =>
      obtain rfl := Option.some.inj hc
      rcases is_letter with rfl | rfl <;> decide
  have hafter : EndsDigits (fraction ++ (exponent ++ rest)) := by
    intro c hc
    cases hfraction with
    | absent => exact (hbehind c hc).1
    | point _ =>
      obtain rfl := Option.some.inj hc
      rfl
  obtain ⟨fraction?, hreadFraction⟩ := readFraction_append hfraction
    (fun c hc => (hbehind c hc).1) (fun hpoint => (hbehind _ hpoint).2 rfl)
  obtain ⟨exponent?, hreadExponent⟩ := readExponent_append hexponent hends
  have hreadWhole : readWhole (ds ++ (fraction ++ (exponent ++ rest))) = some (ds, _) :=
    readWhole_eq_some_iff.mpr ⟨readDigits_eq_some_iff.mpr ⟨rfl, hdigits, hafter⟩, hzero⟩
  refine ⟨⟨negative, ds, fraction?, exponent?⟩, ?_⟩
  rw [List.append_assoc, List.append_assoc]
  simp only [readUnsigned, hreadWhole, hreadFraction, hreadExponent, Option.bind_eq_bind,
    Option.bind_some, Option.pure_def]

/-- What is read without a minus is such a number. -/
theorem exists_unsigned_of_read {negative : Bool} {n : Numeral}
    (h : readUnsigned negative cs = some (n, rest)) :
    ∃ number, cs = number ++ rest ∧ Unsigned number := by
  obtain ⟨⟨digits, r⟩, hwhole, h⟩ := Option.bind_eq_some_iff.mp h
  obtain ⟨⟨fraction?, r'⟩, hreadFraction, h⟩ := Option.bind_eq_some_iff.mp h
  obtain ⟨⟨exponent?, _⟩, hreadExponent, h⟩ := Option.bind_eq_some_iff.mp h
  obtain ⟨-, rfl⟩ := Prod.mk.inj (Option.some.inj h)
  obtain ⟨hread, hzero⟩ := readWhole_eq_some_iff.mp hwhole
  obtain ⟨rfl, hdigits, -⟩ := readDigits_eq_some_iff.mp hread
  obtain ⟨fraction, rfl, hfraction⟩ := exists_fraction_of_read hreadFraction
  obtain ⟨exponent, rfl, hexponent⟩ := exists_exponent_of_read hreadExponent
  refine ⟨digits ++ (fraction ++ exponent), ?_, .parts hdigits hzero hfraction hexponent⟩
  rw [List.append_assoc, List.append_assoc]

/-- A number is read, unless what follows goes on with it. -/
theorem readNumeral_append (h : IsNumber cs) (hends : EndsNumber rest) :
    ∃ n, readNumeral (cs ++ rest) = some (n, rest) := by
  cases h with
  | unsigned number =>
    obtain ⟨n, hn⟩ := readUnsigned_append number hends false
    -- The first character is a digit, and no minus.
    obtain ⟨hdigits, -, -, -⟩ := number
    obtain ⟨c, ds, rfl, hc⟩ := hdigits.exists_cons
    refine ⟨n, ?_⟩
    rw [← hn, List.append_assoc, List.cons_append, readNumeral]
    intro cs hminus
    obtain ⟨rfl, -⟩ := List.cons.inj hminus
    cases hc
  | negative number => exact readUnsigned_append number hends true

/-- A number that is read is one. -/
theorem exists_isNumber_of_readNumeral {n : Numeral} (h : readNumeral cs = some (n, rest)) :
    ∃ number, cs = number ++ rest ∧ IsNumber number := by
  unfold readNumeral at h
  split at h
  · obtain ⟨number, rfl, hnumber⟩ := exists_unsigned_of_read h
    exact ⟨'-' :: number, rfl, .negative hnumber⟩
  · obtain ⟨number, rfl, hnumber⟩ := exists_unsigned_of_read h
    exact ⟨number, rfl, .unsigned hnumber⟩

end Shortlist.Json
