import Shortlist.Proofs.Exclusions.Segments
import Shortlist.Proofs.Product.Arrivals
import Shortlist.Request

/-!
# What a request for exclusions is read as

The segments of a request are added one after the other, until one has an offence. So the outcome
is that of the first segment with an offence, and without any it is the set of all segments
(`foldlM_add`). A request is `Malformed` if one of its segments is too long or holds a control
character, whatever stands in the others; it is then refused (`parse_of_malformed`), and any other
is read as the ids that it names (`parse_eq_ok_iff`). For a whole request nothing else matters.
-/

namespace Shortlist

namespace Exclusions

open Shortlist.Text

/-- One of the segments that count is too long or holds a control character. -/
def Malformed (raws : List String) : Prop :=
  ∃ segment ∈ named raws,
    maxLength < byteLength segment ∨ ∃ c ∈ segment, isControl c = true

/-- A segment is accepted if it is short enough and holds no control character. -/
theorem offence?_eq_none_iff {segment : List Char} :
    offence? segment = none ↔
      byteLength segment ≤ maxLength ∧ ∀ c ∈ segment, isControl c = false := by
  unfold offence?
  split
  · rename_i hlong
    simp only [reduceCtorEq, false_iff, not_and_or]
    exact Or.inl (Nat.not_le.mpr hlong)
  · rename_i hshort
    rw [Nat.not_lt] at hshort
    split
    · rename_i hcontrol
      simp only [reduceCtorEq, false_iff, not_and_or]
      obtain ⟨c, hc, hctl⟩ := List.any_eq_true.mp hcontrol
      exact Or.inr fun h => Bool.noConfusion (hctl.symm.trans (h c hc))
    · rename_i hclean
      simp only [true_iff]
      refine ⟨hshort, fun c hc => Bool.eq_false_iff.mpr fun hctl => hclean ?_⟩
      exact List.any_eq_true.mpr ⟨c, hc, hctl⟩

/-- A request is malformed if not all of its segments are accepted. -/
theorem malformed_iff {raws : List String} :
    Malformed raws ↔ ∃ segment ∈ named raws, offence? segment ≠ none := by
  refine exists_congr fun segment => and_congr_right fun _ => ?_
  rw [ne_eq, offence?_eq_none_iff, not_and_or, Nat.not_le]
  simp

instance (raws : List String) : Decidable (Malformed raws) :=
  decidable_of_iff ((named raws).any fun segment => (offence? segment).isSome) (by
    simp only [malformed_iff, List.any_eq_true, Option.isSome_iff_ne_none])

/-- Whether a request is malformed rests on the segments that it names. -/
theorem Malformed.congr {raws raws' : List String}
    (h : ∀ segment, segment ∈ named raws ↔ segment ∈ named raws') :
    Malformed raws ↔ Malformed raws' := by
  unfold Malformed
  simp only [h]

/-- The first segment with an offence decides; without any, all segments are added. -/
theorem foldlM_add (segments : List (List Char)) (ids : ProductSet) :
    segments.foldlM add ids =
      match segments.findSome? offence? with
      | some offence => .error offence
      | none =>
        .ok (segments.foldl (fun ids segment => ids.insert ⟨String.ofList segment⟩) ids) := by
  induction segments generalizing ids with
  | nil => rfl
  | cons segment rest ih =>
    rw [List.foldlM_cons, List.findSome?_cons, add]
    cases offence? segment with
    | some offence => rfl
    | none => exact ih _

/-- An id is that of a segment if the segment is its text. -/
theorem eq_ofList_iff {id : ProductId} {segment : List Char} :
    id = ⟨String.ofList segment⟩ ↔ id.text.toList = segment := by
  obtain ⟨text⟩ := id
  rw [ProductId.mk.injEq, ← String.toList_inj, String.toList_ofList]

/-- Adding segments adds their ids. -/
theorem mem_foldl_insert {segments : List (List Char)} {ids : ProductSet} {id : ProductId} :
    id ∈ segments.foldl (fun ids segment => ids.insert ⟨String.ofList segment⟩) ids ↔
      id ∈ ids ∨ id.text.toList ∈ segments := by
  induction segments generalizing ids with
  | nil => simp
  | cons segment rest ih =>
    rw [List.foldl_cons, ih, ProductSet.mem_insert_iff, List.mem_cons, eq_ofList_iff]
    tauto

/-- The outcome of a request is its first offence, or else the set of what it names. -/
theorem parse_eq (raws : List String) :
    parse raws =
      match (named raws).findSome? offence? with
      | some offence => .error (.malformedInput offence.message)
      | none =>
        .ok ((named raws).foldl (fun ids segment => ids.insert ⟨String.ofList segment⟩) ∅) := by
  rw [parse, read, foldlM_add]
  cases (named raws).findSome? offence? <;> rfl

/-- Requests that name the same segments in the same order have the same outcome. -/
theorem parse_congr {raws raws' : List String} (h : named raws = named raws') :
    parse raws = parse raws' := by
  rw [parse_eq, parse_eq, h]

/-- A malformed request is refused as malformed input. -/
theorem parse_of_malformed {raws : List String} (h : Malformed raws) :
    ∃ offence : Offence, parse raws = .error (.malformedInput offence.message) := by
  obtain ⟨segment, hsegment, hoffence⟩ := malformed_iff.mp h
  have hfound : ((named raws).findSome? offence?).isSome := by
    rw [List.findSome?_isSome_iff]
    exact ⟨segment, hsegment, Option.isSome_iff_ne_none.mpr hoffence⟩
  obtain ⟨offence, hfirst⟩ := Option.isSome_iff_exists.mp hfound
  refine ⟨offence, ?_⟩
  rw [parse, read, foldlM_add, hfirst]
  rfl

/-- Any other is read as the set of the ids that it names. -/
theorem parse_of_not_malformed {raws : List String} (h : ¬ Malformed raws) :
    ∃ ids, parse raws = .ok ids ∧ ∀ id, id ∈ ids ↔ id.text.toList ∈ named raws := by
  have hnone : (named raws).findSome? offence? = none := by
    rw [List.findSome?_eq_none_iff]
    intro segment hsegment
    by_contra hoffence
    exact h (malformed_iff.mpr ⟨segment, hsegment, hoffence⟩)
  refine ⟨_, by rw [parse, read, foldlM_add, hnone]; rfl, fun id => ?_⟩
  rw [mem_foldl_insert]
  simp

/-- What it takes for a request to be read as a set. -/
theorem parse_eq_ok_iff {raws : List String} {ids : ProductSet} :
    parse raws = .ok ids ↔
      ¬ Malformed raws ∧ ∀ id, id ∈ ids ↔ id.text.toList ∈ named raws := by
  by_cases h : Malformed raws
  · obtain ⟨offence, hparse⟩ := parse_of_malformed h
    rw [hparse]
    simp [h]
  · obtain ⟨read, hparse, hmem⟩ := parse_of_not_malformed h
    rw [hparse]
    constructor
    · intro heq
      obtain rfl := Except.ok.inj heq
      exact ⟨h, hmem⟩
    · rintro ⟨-, hids⟩
      -- Sets with the same members are equal.
      refine congrArg Except.ok (Std.ExtTreeSet.ext_mem fun id => ?_)
      rw [hmem, hids]

/-- A request in two parts fails as the first part does, or else as the second; and if neither
fails, it excludes what both exclude. -/
theorem parse_append (raws later : List String) :
    parse (raws ++ later) =
      match parse raws, parse later with
      | .error fault, _ => .error fault
      | .ok _, .error fault => .error fault
      | .ok ids, .ok more => .ok (ids ∪ more) := by
  rw [parse_eq (raws ++ later), parse_eq raws, parse_eq later, named_append, List.findSome?_append]
  rcases (named raws).findSome? offence? with _ | first
  · rcases (named later).findSome? offence? with _ | second
    · -- Sets with the same members are equal.
      refine congrArg Except.ok (Std.ExtTreeSet.ext_mem fun id => ?_)
      rw [Std.ExtTreeSet.mem_union_iff, mem_foldl_insert, mem_foldl_insert, mem_foldl_insert,
        List.mem_append]
      simp
    · rfl
  · rfl

/-- Requests that name the same, in whatever order, are accepted or not together, and as the same
set. -/
theorem parse_eq_ok_congr {raws raws' : List String}
    (h : ∀ segment, segment ∈ named raws ↔ segment ∈ named raws') (ids : ProductSet) :
    parse raws = .ok ids ↔ parse raws' = .ok ids := by
  simp only [parse_eq_ok_iff, Malformed.congr h, h]

end Exclusions

namespace Request

variable {raws : List String}

/-- A malformed request is refused, whoever asks. -/
theorem parse_of_malformed (h : Exclusions.Malformed raws) (user : String) :
    ∃ text, parse user raws = .error (.malformedInput text) := by
  obtain ⟨offence, hparse⟩ := Exclusions.parse_of_malformed h
  exact ⟨offence.message, by rw [parse, hparse]; rfl⟩

/-- Any other is read, with the ids that it names. -/
theorem parse_of_not_malformed (h : ¬ Exclusions.Malformed raws) (user : String) :
    ∃ exclude, Exclusions.parse raws = .ok exclude ∧ parse user raws = .ok { user, exclude } := by
  obtain ⟨exclude, hparse, -⟩ := Exclusions.parse_of_not_malformed h
  exact ⟨exclude, hparse, by rw [parse, hparse]; rfl⟩

end Request

end Shortlist
