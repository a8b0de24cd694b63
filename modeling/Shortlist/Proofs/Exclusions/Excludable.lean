import Shortlist.Proofs.Exclusions.Reading

/-!
# The ids that a caller can exclude

A catalog may list any text as an id, but a request names an id only through a segment, and segments
are trimmed, free of commas and checked. `ProductId.Excludable` says of which ids a segment is left:
they are exactly those that some accepted request excludes (`excludable_iff`), and each of them is
excluded by its own text (`parse_text`). A list of such ids can be sent back with whatever else a
request holds, joined by commas in any way, and adds just these ids to the exclusions
(`parse_resent`).
-/

namespace Shortlist

open Shortlist.Text

/-- An id that a request can name. -/
structure ProductId.Excludable (id : ProductId) : Prop where
  ne_empty : id.text ≠ ""
  /-- It does not begin with a blank. -/
  head : ∀ c, id.text.toList.head? = some c → isBlank c = false
  /-- Nor does it end with one. -/
  last : ∀ c, id.text.toList.getLast? = some c → isBlank c = false
  comma : ',' ∉ id.text.toList
  control : ∀ c ∈ id.text.toList, isControl c = false
  short : id.text.utf8ByteSize ≤ Exclusions.maxLength

namespace ProductId

variable {id : ProductId}

/-- Trimming leaves the text of such an id alone. -/
theorem Excludable.trim_eq (h : id.Excludable) : trim id.text.toList = id.text.toList :=
  trim_eq_self_iff.mpr ⟨h.head, h.last⟩

/-- The conditions on an id, with those on its ends in one. -/
theorem excludable_iff_trim :
    id.Excludable ↔ id.text ≠ "" ∧ trim id.text.toList = id.text.toList ∧
      ',' ∉ id.text.toList ∧ (∀ c ∈ id.text.toList, isControl c = false) ∧
      id.text.utf8ByteSize ≤ Exclusions.maxLength := by
  constructor
  · exact fun h => ⟨h.ne_empty, h.trim_eq, h.comma, h.control, h.short⟩
  · rintro ⟨hne, htrim, hcomma, hcontrol, hshort⟩
    obtain ⟨hhead, hlast⟩ := trim_eq_self_iff.mp htrim
    exact ⟨hne, hhead, hlast, hcomma, hcontrol, hshort⟩

instance (id : ProductId) : Decidable id.Excludable :=
  decidable_of_iff (id.text ≠ "" ∧ trim id.text.toList = id.text.toList ∧
    ',' ∉ id.text.toList ∧ id.text.toList.any isControl = false ∧
    id.text.utf8ByteSize ≤ Exclusions.maxLength) (by
      simp only [excludable_iff_trim, List.any_eq_false, Bool.not_eq_true])

end ProductId

namespace Exclusions

variable {id : ProductId} {raws raws' : List String}

/-! ## Requests that name the same -/

/-- A request is malformed if a part of it is. -/
theorem malformed_append : Malformed (raws ++ raws') ↔ Malformed raws ∨ Malformed raws' := by
  unfold Malformed
  simp only [named_append, List.mem_append, or_and_right, exists_or]

/-- A request names the same in whatever order and however joined its elements are sent. -/
theorem mem_named_resent {groups : List (List String)} (h : groups.flatten.Perm raws)
    (segment : List Char) : segment ∈ named (groups.map joined) ↔ segment ∈ named raws := by
  rw [named_map_joined]
  exact (named_perm h).mem_iff

/-! ## Naming an id -/

/-- The text of an id that can be named is its only segment. -/
theorem named_text (h : id.Excludable) : named [id.text] = [id.text.toList] := by
  have hne : id.text.toList ≠ [] := fun hnil => h.ne_empty (String.toList_eq_nil_iff.mp hnil)
  rw [named, List.flatMap_singleton, segments_of_trimmed h.trim_eq h.comma]
  exact List.filter_cons_of_pos (by simpa using hne)

/-- The texts of such ids name just these. -/
theorem named_texts {ids : List ProductId} (h : ∀ id ∈ ids, id.Excludable) :
    named (ids.map (·.text)) = ids.map (·.text.toList) := by
  induction ids with
  | nil => rfl
  | cons id rest ih =>
    obtain ⟨hid, hrest⟩ := List.forall_mem_cons.mp h
    rw [List.map_cons, named_cons, named_text hid, ih hrest]
    rfl

/-- And they are accepted. -/
theorem not_malformed_texts {ids : List ProductId} (h : ∀ id ∈ ids, id.Excludable) :
    ¬ Malformed (ids.map (·.text)) := by
  rintro ⟨segment, hsegment, hoffence⟩
  rw [named_texts h] at hsegment
  obtain ⟨id, hid, rfl⟩ := List.mem_map.mp hsegment
  rcases hoffence with hlong | ⟨c, hc, hcontrol⟩
  · rw [byteLength_eq_utf8ByteSize, String.ofList_toList] at hlong
    exact Nat.not_le.mpr hlong (h id hid).short
  · rw [(h id hid).control c hc] at hcontrol
    cases hcontrol

/-- An id that a request names and that is accepted with it can be excluded. -/
theorem excludable_of_mem_named (accepted : ¬ Malformed raws)
    (h : id.text.toList ∈ named raws) : id.Excludable := by
  obtain ⟨⟨raw, -, hsegment⟩, hne⟩ := mem_named.mp h
  obtain ⟨htrim, hcomma⟩ := mem_segments hsegment
  refine ProductId.excludable_iff_trim.mpr ⟨?_, htrim, hcomma, ?_, ?_⟩
  · exact fun hempty => hne (String.toList_eq_nil_iff.mpr hempty)
  · intro c hc
    rw [Bool.eq_false_iff]
    exact fun hcontrol => accepted ⟨_, h, Or.inr ⟨c, hc, hcontrol⟩⟩
  · rw [← Nat.not_lt]
    intro hlong
    refine accepted ⟨_, h, Or.inl ?_⟩
    rwa [byteLength_eq_utf8ByteSize, String.ofList_toList]

/-! ## Excluding an id -/

/-- The texts of ids that can be named are read as the set of these ids. -/
theorem parse_texts {ids : List ProductId} (h : ∀ id ∈ ids, id.Excludable) :
    parse (ids.map (·.text)) = .ok (.ofList ids) := by
  refine parse_eq_ok_iff.mpr ⟨not_malformed_texts h, ?_⟩
  intro id
  rw [named_texts h, ProductSet.mem_ofList, List.mem_map]
  constructor
  · exact fun hid => ⟨id, hid, rfl⟩
  · rintro ⟨⟨text⟩, hid, heq⟩
    obtain ⟨text'⟩ := id
    obtain rfl := String.toList_inj.mp heq
    exact hid

/-- In particular its own text excludes an id that can be named, and nothing else. -/
theorem parse_text (h : id.Excludable) : parse [id.text] = .ok (.ofList [id]) := by
  have hall : ∀ other ∈ [id], other.Excludable := by simpa using h
  exact parse_texts hall

/-- The ids that can be named are those that some accepted request excludes. -/
theorem excludable_iff :
    (∃ raws seen, parse raws = .ok seen ∧ id ∈ seen) ↔ id.Excludable := by
  constructor
  · rintro ⟨raws, seen, hparse, hid⟩
    obtain ⟨haccepted, hmem⟩ := parse_eq_ok_iff.mp hparse
    exact excludable_of_mem_named haccepted ((hmem id).mp hid)
  · exact fun h => ⟨_, _, parse_text h, ProductSet.mem_ofList.mpr (List.mem_singleton_self id)⟩

/-- Ids that can be named and are sent back with an accepted request, in any order and joined by
commas in any way, are accepted with it and excluded beside what it excludes. -/
theorem parse_resent {seen : ProductSet} {shown : List ProductId} {groups : List (List String)}
    (accepted : parse raws = .ok seen) (h : ∀ id ∈ shown, id.Excludable)
    (resent : groups.flatten.Perm (raws ++ shown.map (·.text))) :
    ∃ sent, parse (groups.map joined) = .ok sent ∧ ∀ id, id ∈ sent ↔ id ∈ seen ∨ id ∈ shown := by
  obtain ⟨hraws, hseen⟩ := parse_eq_ok_iff.mp accepted
  obtain ⟨hshown, hids⟩ := parse_eq_ok_iff.mp (parse_texts h)
  have hgood : ¬ Malformed (groups.map joined) := by
    rw [Malformed.congr (mem_named_resent resent), malformed_append]
    exact fun hbad => hbad.elim hraws hshown
  obtain ⟨sent, hparse, hsent⟩ := parse_of_not_malformed hgood
  refine ⟨sent, hparse, ?_⟩
  intro id
  rw [hsent, mem_named_resent resent, named_append, List.mem_append, ← hseen, ← hids,
    ProductSet.mem_ofList]

end Exclusions

end Shortlist
