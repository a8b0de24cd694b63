import Shortlist.Json.Reader
import Shortlist.Proofs.Json.Literal

/-!
# Strings among JSON values

The reader of JSON values reads a text as a string exactly if the text is one string between blanks,
and then as the text of this string (`read_eq_text_iff`): of all values only strings begin with a
quote.
-/

namespace Shortlist.Json

open Literal (isSpace readBody)

variable {v : Json} {cs rest : List Char}

/-- The value of a number is no text. -/
theorem Numeral.ne_text_of_value? {n : Numeral} (h : n.value? = some v) (s : String) :
    v ≠ .text s := by
  rintro rfl
  unfold Numeral.value? at h
  split at h
  · unfold wholeNumber? at h
    grind [Option.map_eq_some_iff]
  · unfold realNumber? at h
    grind [Option.map_eq_some_iff]

/-- A number is no text. -/
theorem ne_text_of_readNumber (h : readNumber cs = some (v, rest)) (s : String) : v ≠ .text s := by
  obtain ⟨⟨n, _⟩, -, hvalue⟩ := Option.bind_eq_some_iff.mp h
  obtain ⟨w, hw, hpair⟩ := Option.map_eq_some_iff.mp hvalue
  obtain ⟨rfl, -⟩ := Prod.mk.inj hpair
  exact Numeral.ne_text_of_value? hw s

/-- A value that begins with a quote is the string behind it. -/
theorem readValue_quote {fuel depth : Nat} (h : skip cs = '"' :: rest) :
    readValue (fuel + 1) depth cs =
      (readBody rest).map fun r => (.text (String.ofList r.1), r.2) := by
  rw [readValue, h]
  rfl

/-- A value that is a text begins with a quote. -/
theorem skip_of_readValue_text {fuel depth : Nat} {s : String}
    (h : readValue (fuel + 1) depth cs = some (.text s, rest)) :
    ∃ inner, skip cs = '"' :: inner := by
  rw [readValue] at h
  split at h
  case h_4 inner hskip => exact ⟨inner, hskip⟩
  case h_1 | h_2 | h_3 => cases h
  case h_5 | h_6 =>
    split at h
    · cases h
    · split at h
      · cases h
      · obtain ⟨items, -, hpair⟩ := Option.map_eq_some_iff.mp h
        cases hpair
  case h_7 => exact absurd rfl (ne_text_of_readNumber h s)

/-- A JSON text is the value of a string exactly if it is one string, with the same text. -/
theorem read_eq_text_iff {t s : String} :
    read t = some (.text s) ↔ Literal.read t.toList = some s.toList := by
  rw [Literal.read_eq_some_iff]
  constructor
  · intro h
    unfold read readInside at h
    split at h
    · rename_i v rest hvalue
      split at h
      · rename_i hrest
        obtain rfl := Option.some.inj h
        obtain ⟨inner, hskip⟩ := skip_of_readValue_text hvalue
        rw [readValue_quote hskip] at hvalue
        obtain ⟨⟨body, after⟩, hbody, hpair⟩ := Option.map_eq_some_iff.mp hvalue
        obtain ⟨htext, rfl⟩ := Prod.mk.inj hpair
        obtain rfl := Json.text.inj htext
        rw [String.toList_ofList]
        exact ⟨inner, after, hskip, hbody, List.all_eq_true.mp hrest⟩
      · cases h
    · cases h
  · rintro ⟨inner, after, hskip, hbody, hafter⟩
    unfold read readInside
    rw [readValue_quote hskip, hbody]
    simp only [Option.map_some, String.ofList_toList]
    rw [if_pos (List.all_eq_true.mpr hafter)]

end Shortlist.Json
