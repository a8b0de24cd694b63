import Shortlist.Exclusions
import Shortlist.Proofs.Text.Trim

/-!
# Segments of an exclusion list

A raw element is read as its segments, the texts between its commas without their outer blanks. A
segment is trimmed and holds no comma (`mem_segments`), and a text of this kind is its own only
segment (`segments_of_trimmed`). Joining elements by commas joins their segments
(`named_joined`), so that it does not matter which ids of a request share an element.
-/

namespace Shortlist.Exclusions

open Shortlist.Text

/-- Elements joined by commas into one. -/
def joined (raws : List String) : String := String.intercalate "," raws

/-! ## The segments of an element -/

/-- A part between commas holds no comma. -/
theorem not_mem_of_mem_splitOn {cs part : List Char} (h : part ∈ cs.splitOn ',') :
    ',' ∉ part := by
  induction cs generalizing part with
  | nil =>
    rw [List.splitOn_nil, List.mem_singleton] at h
    rw [h]
    exact List.not_mem_nil
  | cons c rest ih =>
    rw [List.splitOn_cons_eq_if_modifyHead] at h
    split at h
    · rcases List.mem_cons.mp h with rfl | h
      · exact List.not_mem_nil
      · exact ih h
    · rename_i hc
      -- The character goes in front of the first part of the rest.
      rcases hparts : rest.splitOn ',' with _ | ⟨first, others⟩
      · exact absurd hparts (List.splitOn_ne_nil _ _)
      · rw [hparts, List.modifyHead_cons] at h
        rcases List.mem_cons.mp h with rfl | h
        · rw [List.mem_cons, not_or]
          have hne : c ≠ ',' := by simpa using hc
          exact ⟨hne.symm, ih (by rw [hparts]; exact List.mem_cons_self)⟩
        · exact ih (by rw [hparts]; exact List.mem_cons_of_mem _ h)

/-- A segment is trimmed and holds no comma. -/
theorem mem_segments {raw : String} {segment : List Char} (h : segment ∈ segments raw) :
    trim segment = segment ∧ ',' ∉ segment := by
  obtain ⟨part, hpart, rfl⟩ := List.mem_map.mp h
  exact ⟨trim_trim part,
    fun hcomma => not_mem_of_mem_splitOn hpart ((trim_sublist part).mem hcomma)⟩

/-- A trimmed text without commas is its only segment. -/
theorem segments_of_trimmed {raw : String} (htrim : trim raw.toList = raw.toList)
    (hcomma : ',' ∉ raw.toList) : segments raw = [raw.toList] := by
  rw [segments, List.splitOn_eq_singleton hcomma, List.map_singleton, htrim]

/-- A comma separates the segments of what stands before it from those of what stands behind. -/
theorem segments_append_comma (raw later : String) :
    segments (raw ++ "," ++ later) = segments raw ++ segments later := by
  have htext : (raw ++ "," ++ later).toList = raw.toList ++ ',' :: later.toList := by
    rw [String.toList_append, String.toList_append, List.append_assoc]
    rfl
  rw [segments, htext, List.splitOn_append_cons_self, List.map_append]
  rfl

/-- Joining two elements or more puts a comma behind the first. -/
theorem joined_cons_cons (raw next : String) (rest : List String) :
    joined (raw :: next :: rest) = raw ++ "," ++ joined (next :: rest) := by
  rw [joined, joined, ← String.toList_inj, String.toList_intercalate, String.toList_append,
    String.toList_append, String.toList_intercalate, List.map_cons, List.map_cons,
    List.intercalate_cons_cons, List.append_assoc]

/-- The segments of joined elements are the segments of all of them. -/
theorem segments_joined {raws : List String} (h : raws ≠ []) :
    segments (joined raws) = raws.flatMap segments := by
  induction raws with
  | nil => exact absurd rfl h
  | cons raw rest ih =>
    cases rest with
    | nil =>
      have hone : joined [raw] = raw := by
        rw [joined, ← String.toList_inj, String.toList_intercalate, List.map_singleton,
          List.intercalate_singleton]
      rw [hone, List.flatMap_singleton]
    | cons next rest =>
      rw [joined_cons_cons, segments_append_comma, ih (by simp)]
      rfl

/-! ## The segments that count -/

/-- A segment counts if it is one of an element's and not empty. -/
theorem mem_named {raws : List String} {segment : List Char} :
    segment ∈ named raws ↔ (∃ raw ∈ raws, segment ∈ segments raw) ∧ segment ≠ [] := by
  rw [named, List.mem_filter, List.mem_flatMap]
  simp

/-- The segments that count in two lists are those of the one and then those of the other. -/
theorem named_append (raws later : List String) :
    named (raws ++ later) = named raws ++ named later := by
  rw [named, List.flatMap_append, List.filter_append]
  rfl

theorem named_cons (raw : String) (rest : List String) :
    named (raw :: rest) = named [raw] ++ named rest := named_append [raw] rest

/-- Elements name the same whether or not they are joined. -/
theorem named_joined (raws : List String) : named [joined raws] = named raws := by
  by_cases h : raws = []
  · -- No element at all is joined into an empty one, which names nothing.
    subst h
    rfl
  · rw [named, named, List.flatMap_singleton, segments_joined h]

/-- And so they do however they are joined into several. -/
theorem named_map_joined (groups : List (List String)) :
    named (groups.map joined) = named groups.flatten := by
  induction groups with
  | nil => rfl
  | cons group rest ih =>
    rw [List.map_cons, named_cons, named_joined, ih, List.flatten_cons, named_append]

/-- The order of the elements changes the order of what they name. -/
theorem named_perm {raws raws' : List String} (h : raws.Perm raws') :
    (named raws).Perm (named raws') :=
  (h.flatMap_right segments).filter _

end Shortlist.Exclusions
