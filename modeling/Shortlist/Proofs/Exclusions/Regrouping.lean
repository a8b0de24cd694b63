import Shortlist.Proofs.Exclusions.Excludable

/-!
# Ways to write the same request

Ids can be sent in elements of their own or joined by commas in one, and a request can be taken
apart and put together again at its commas. `parse_interchange` says that none of this matters: the
outcome rests on the parts between commas and their order, so that it is the same with the same
fault (`parse_of_parts`), and a request in two parts fails as the first part that fails. Blanks
around parts and parts that are blank leave the outcome too (`Loosened.parse_eq`). The order of the
elements decides which fault is reported, and nothing else.
-/

namespace Shortlist.Exclusions

open Shortlist.Text

/-- The texts between the commas of an element, with their blanks. -/
def parts (raw : String) : List (List Char) := raw.toList.splitOn ','

/-- What a request names is what trimming leaves of its parts, unless that is nothing. -/
theorem named_eq_parts (raws : List String) :
    named raws = ((raws.flatMap parts).map trim).filter fun segment => !segment.isEmpty := by
  rw [named, List.map_flatMap]
  rfl

/-- Requests with the same parts in the same order have the same outcome. -/
theorem parse_of_parts {raws raws' : List String} (h : raws.flatMap parts = raws'.flatMap parts) :
    parse raws = parse raws' := by
  apply parse_congr
  rw [named_eq_parts, named_eq_parts, h]

/-- Parts with blanks put in: `loose` is `parts` with blanks around some of them, and with parts
that are blank, or empty, between them. -/
inductive Loosened : (parts loose : List (List Char)) → Prop
  | nil : Loosened [] []
  /-- A part with blanks around it. -/
  | pad {before part after : List Char} {parts loose : List (List Char)}
    (before_blank : ∀ c ∈ before, isBlank c = true) (after_blank : ∀ c ∈ after, isBlank c = true)
    (rest : Loosened parts loose) : Loosened (part :: parts) ((before ++ part ++ after) :: loose)
  /-- A blank part. -/
  | gap {gap : List Char} {parts loose : List (List Char)}
    (gap_blank : ∀ c ∈ gap, isBlank c = true) (rest : Loosened parts loose) :
    Loosened parts (gap :: loose)

/-- Nothing is left of a text of blanks. -/
theorem trim_of_blank {cs : List Char} (h : ∀ c ∈ cs, isBlank c = true) : trim cs = [] := by
  have hnone : ∀ c ∈ ([] : List Char), isBlank c = true := by simp
  have htrim := trim_append_blanks h hnone []
  rwa [List.append_nil, List.append_nil, trim_nil] at htrim

/-- A part may stay as it is. -/
theorem Loosened.keep {parts loose : List (List Char)} (part : List Char)
    (h : Loosened parts loose) : Loosened (part :: parts) (part :: loose) := by
  have hpad : Loosened (part :: parts) (([] ++ part ++ []) :: loose) :=
    .pad (by simp) (by simp) h
  rwa [List.nil_append, List.append_nil] at hpad

/-- Loosened parts leave the same segments, but for empty ones. -/
theorem Loosened.filter_trim {parts loose : List (List Char)} (h : Loosened parts loose) :
    (loose.map trim).filter (fun segment => !segment.isEmpty) =
      (parts.map trim).filter fun segment => !segment.isEmpty := by
  induction h with
  | nil => rfl
  | pad before_blank after_blank _ ih =>
    rw [List.map_cons, List.map_cons, trim_append_blanks before_blank after_blank,
      List.filter_cons, List.filter_cons, ih]
  | gap gap_blank _ ih =>
    rw [List.map_cons, trim_of_blank gap_blank, List.filter_cons_of_neg (by simp), ih]

/-- So a request with loosened parts has the same outcome. -/
theorem Loosened.parse_eq {raws raws' : List String}
    (h : Loosened (raws.flatMap parts) (raws'.flatMap parts)) : parse raws' = parse raws := by
  apply parse_congr
  rw [named_eq_parts, named_eq_parts, h.filter_trim]

/-- The ways to write a request are interchangeable. Elements joined by commas into one have the
outcome that they have apart, the same set or the same fault; so do they if they are joined in other
groups, and so does any request that has the same parts between its commas in the same order. A
request in two parts has the fault of the first part, or else that of the second, or else it
excludes what both exclude. In another order the elements are accepted or not as before, and as the
same set. And where blanks are put around parts, and parts that are blank or empty are put in
anywhere, the outcome is the same. -/
theorem parse_interchange :
    (∀ raws, parse [joined raws] = parse raws) ∧
    (∀ groups groups' : List (List String), groups.flatten = groups'.flatten →
      parse (groups.map joined) = parse (groups'.map joined)) ∧
    (∀ raws raws', raws.flatMap parts = raws'.flatMap parts → parse raws = parse raws') ∧
    (∀ raws later, parse (raws ++ later) =
      match parse raws, parse later with
      | .error fault, _ => .error fault
      | .ok _, .error fault => .error fault
      | .ok ids, .ok more => .ok (ids ∪ more)) ∧
    (∀ raws raws' : List String, raws.Perm raws' →
      ∀ ids, parse raws = .ok ids ↔ parse raws' = .ok ids) ∧
    (∀ raws raws' : List String, Loosened (raws.flatMap parts) (raws'.flatMap parts) →
      parse raws' = parse raws) := by
  refine ⟨?_, ?_, ?_, ?_, ?_, ?_⟩
  · exact fun raws => parse_congr (named_joined raws)
  · intro groups groups' hsame
    apply parse_congr
    rw [named_map_joined, named_map_joined, hsame]
  · exact fun raws raws' hsame => parse_of_parts hsame
  · exact parse_append
  · intro raws raws' hperm
    apply parse_eq_ok_congr
    exact fun segment => (named_perm hperm).mem_iff
  · exact fun raws raws' hloose => hloose.parse_eq

/-- Elements that hold commas, end in one or are empty, are taken apart at other commas, loosened by
tabs, a line feed and gaps, and sent in another order. -/
theorem parse_interchange_of_commas :
    parse ["a,,b", "", "c,"] = parse ["a,", "b,,c", ""] ∧
    parse ["a\t,,b,\n", " ,c", ",\t"] = parse ["a,,b", "", "c,"] ∧
    ∃ ids, parse ["a,,b", "", "c,"] = .ok ids ∧ parse ["c,", "a,,b", ""] = .ok ids := by
  obtain ⟨-, -, hparts, -, hperm, hloose⟩ := parse_interchange
  have hloosened : Loosened (["a,,b", "", "c,"].flatMap parts)
      (["a\t,,b,\n", " ,c", ",\t"].flatMap parts) := by
    have hnone : ∀ c ∈ ([] : List Char), isBlank c = true := by simp
    have htab : ∀ c ∈ ['\t'], isBlank c = true := List.forall_mem_singleton.mpr (by decide)
    have hspace : ∀ c ∈ [' '], isBlank c = true := List.forall_mem_singleton.mpr (by decide)
    have hline : ∀ c ∈ ['\n'], isBlank c = true := List.forall_mem_singleton.mpr (by decide)
    have hplain : ["a,,b", "", "c,"].flatMap parts = [['a'], [], ['b'], [], ['c'], []] := by
      decide +kernel
    have hloose : ["a\t,,b,\n", " ,c", ",\t"].flatMap parts =
        [['a', '\t'], [], ['b'], ['\n'], [' '], ['c'], [], ['\t']] := by decide +kernel
    rw [hplain, hloose]
    exact .pad hnone htab (.keep _ (.keep _ (.gap hline (.pad hspace hnone (.keep _ (.keep _
      (.gap htab .nil)))))))
  obtain ⟨ids, hids, -⟩ :=
    parse_of_not_malformed (show ¬ Malformed ["a,,b", "", "c,"] by decide +kernel)
  refine ⟨hparts _ _ (by decide +kernel), hloose _ _ hloosened, ids, hids, ?_⟩
  have hmoved : ["a,,b", "", "c,"].Perm ["c,", "a,,b", ""] := by decide
  exact (hperm _ _ hmoved ids).mp hids

end Shortlist.Exclusions
