import Mathlib.Data.List.DropRight
import Mathlib.Data.String.Basic
import Shortlist.Text.Blank

/-!
# What trimming leaves

A trimmed text is a part of the text in its order (`trim_sublist`) that begins and ends with no
blank (`not_blank_of_head?_trim`, `not_blank_of_getLast?_trim`), so that trimming it again leaves it
alone (`trim_trim`). Around it the text has nothing but blanks (`exists_blanks_trim`), and however
many of them there are makes no difference (`trim_append_blanks`).
-/

namespace Shortlist.Text

variable {cs : List Char} {c : Char}

/-- Trimming the end is dropping the blanks from the right. -/
theorem trimEnd_eq_rdropWhile (cs : List Char) : trimEnd cs = cs.rdropWhile isBlank := rfl

/-- A trimmed text holds the characters of the text in their order. -/
theorem trim_sublist (cs : List Char) : (trim cs).Sublist cs := by
  have hend : trimEnd (trimStart cs) <+: trimStart cs := List.rdropWhile_prefix isBlank _
  have hstart : trimStart cs <:+ cs := List.dropWhile_suffix isBlank
  exact hend.sublist.trans hstart.sublist

/-- A trimmed text does not begin with a blank. -/
theorem not_blank_of_head?_trim (h : (trim cs).head? = some c) : isBlank c = false := by
  -- What the end loses does not change how the text begins.
  have hprefix : trim cs <+: trimStart cs := List.rdropWhile_prefix isBlank _
  have hhead : (trimStart cs).head? = some c := by
    obtain ⟨later, hlater⟩ := hprefix
    rw [← hlater, List.head?_append, h]
    rfl
  have hnot := List.head?_dropWhile_not isBlank cs
  rw [show cs.dropWhile isBlank = trimStart cs from rfl, hhead] at hnot
  exact hnot

/-- A trimmed text does not end with a blank. -/
theorem not_blank_of_getLast?_trim (h : (trim cs).getLast? = some c) : isBlank c = false := by
  rw [trim, trimEnd_eq_rdropWhile] at h
  obtain ⟨hne, hlast⟩ := List.mem_getLast?_eq_getLast h
  rw [hlast]
  exact Bool.eq_false_iff.mpr (List.rdropWhile_last_not isBlank _ hne)

/-- Trimming a trimmed text leaves it alone. -/
theorem trim_trim (cs : List Char) : trim (trim cs) = trim cs :=
  trim_eq_self_iff.mpr
    ⟨fun _ h => not_blank_of_head?_trim h, fun _ h => not_blank_of_getLast?_trim h⟩

/-! ## Trimming and joining -/

/-- Trimming the front of a text that is not blank leaves what stands behind it. -/
theorem trimStart_append (h : ∃ c ∈ cs, isBlank c = false) (after : List Char) :
    trimStart (cs ++ after) = trimStart cs ++ after := by
  have hne : cs.dropWhile isBlank ≠ [] := by
    obtain ⟨c, hc, hblank⟩ := h
    intro hnil
    rw [List.dropWhile_eq_nil_iff.mp hnil c hc] at hblank
    cases hblank
  unfold trimStart
  rw [List.dropWhile_append, if_neg (by simpa using hne)]

/-- Trimming the end of a text that is not blank leaves what stands in front of it. -/
theorem trimEnd_append (before : List Char) (h : ∃ c ∈ cs, isBlank c = false) :
    trimEnd (before ++ cs) = before ++ trimEnd cs := by
  have hreverse : ∃ c ∈ cs.reverse, isBlank c = false := by simpa using h
  have hfront : (cs.reverse ++ before.reverse).dropWhile isBlank =
      cs.reverse.dropWhile isBlank ++ before.reverse := trimStart_append hreverse _
  unfold trimEnd
  rw [List.reverse_append, hfront, List.reverse_append, List.reverse_reverse]

/-- Blanks in front of a text and behind it are trimmed away. -/
theorem trim_append_blanks {before after : List Char} (hbefore : ∀ c ∈ before, isBlank c = true)
    (hafter : ∀ c ∈ after, isBlank c = true) (cs : List Char) :
    trim (before ++ cs ++ after) = trim cs := by
  have hfront : trimStart (before ++ cs ++ after) = trimStart (cs ++ after) := by
    rw [List.append_assoc]
    exact List.dropWhile_append_of_pos hbefore
  have hback : ∀ text : List Char, trimEnd (text ++ after) = trimEnd text := by
    intro text
    unfold trimEnd
    rw [List.reverse_append, List.dropWhile_append_of_pos (by simpa using hafter)]
  rw [trim, hfront, trim]
  by_cases h : ∃ c ∈ cs, isBlank c = false
  · rw [trimStart_append h, hback]
  · -- There are nothing but blanks, and none of them is left.
    have hblank : ∀ c ∈ cs, isBlank c = true := by simpa using h
    have hleft : trimStart (cs ++ after) = trimStart cs := by
      unfold trimStart
      rw [List.dropWhile_append_of_pos hblank, List.dropWhile_eq_nil_iff.mpr hblank,
        List.dropWhile_eq_nil_iff.mpr hafter]
    rw [hleft]

/-- A text is what trimming leaves of it, between blanks. -/
theorem exists_blanks_trim (cs : List Char) :
    ∃ before after, cs = before ++ trim cs ++ after ∧ (∀ c ∈ before, isBlank c = true) ∧
      ∀ c ∈ after, isBlank c = true := by
  have hfront : cs.takeWhile isBlank ++ trimStart cs = cs := List.takeWhile_append_dropWhile
  have hback : trim cs ++ (trimStart cs).rtakeWhile isBlank = trimStart cs :=
    List.rdropWhile_append_rtakeWhile
  refine ⟨cs.takeWhile isBlank, (trimStart cs).rtakeWhile isBlank, ?_, ?_, ?_⟩
  · rw [List.append_assoc, hback, hfront]
  · exact fun c hc => List.mem_takeWhile_imp hc
  · exact fun c hc => List.mem_rtakeWhile_imp hc

/-- What stands between characters that are no blanks is not trimmed away. -/
theorem mem_trim_of_between {front back : List Char} (hfront : ∃ c ∈ front, isBlank c = false)
    (hback : ∃ c ∈ back, isBlank c = false) (c : Char) : c ∈ trim (front ++ c :: back) := by
  have hend : ∃ other ∈ c :: back, isBlank other = false := by
    obtain ⟨other, hother, hblank⟩ := hback
    exact ⟨other, List.mem_cons_of_mem _ hother, hblank⟩
  have hcons : trimEnd (c :: back) = [c] ++ trimEnd back := trimEnd_append [c] hback
  rw [trim, trimStart_append hfront, trimEnd_append _ hend, hcons]
  simp

/-! ## Length -/

/-- The length in bytes is that of the string's encoding. -/
theorem byteLength_eq_utf8ByteSize (cs : List Char) :
    byteLength cs = (String.ofList cs).utf8ByteSize := by
  rw [String.utf8ByteSize_ofList]
  induction cs with
  | nil => rfl
  | cons c rest ih => rw [byteLength_cons, String.utf8Len_cons, ih, Nat.add_comm]

end Shortlist.Text
