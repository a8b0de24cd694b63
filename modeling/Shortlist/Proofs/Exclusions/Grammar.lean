import Shortlist.Proofs.Exclusions.Excludable

/-!
# The grammar of exclusion lists

What a request spells is told by a grammar: an element is a list of parts with commas between them
(`Spells`), a part is a segment between blanks (`Padded`), and a request spells what its elements
spell, one after the other (`RequestSpells`). Every request spells exactly one list of segments,
which is the list that `segments` reads (`requestSpells_iff`).

A segment is `Acceptable` if it is short enough and holds no control character. The first segment
that is not decides what the request is answered with (`parse_eq_error_iff`), and the others behind
it do not count. `parse_grammar` puts this together: it says which requests are accepted, as which
set, and what the fault of any other is.
-/

namespace Shortlist.Exclusions

open Shortlist.Text

/-! ## What a request spells -/

/-- A part is a segment with blanks around it, as many as there are. -/
inductive Padded : (part segment : List Char) → Prop
  | mk {before segment after : List Char} (before_blank : ∀ c ∈ before, isBlank c = true)
    (head : ∀ c, segment.head? = some c → isBlank c = false)
    (last : ∀ c, segment.getLast? = some c → isBlank c = false)
    (after_blank : ∀ c ∈ after, isBlank c = true) : Padded (before ++ segment ++ after) segment

/-- An element is one part, or a part, a comma and an element. -/
inductive Spells : (text : List Char) → (segments : List (List Char)) → Prop
  | last {part segment : List Char} (comma : ',' ∉ part) (padded : Padded part segment) :
    Spells part [segment]
  | more {part segment text : List Char} {segments : List (List Char)} (comma : ',' ∉ part)
    (padded : Padded part segment) (rest : Spells text segments) :
    Spells (part ++ ',' :: text) (segment :: segments)

/-- A request spells what its elements spell, in order. -/
inductive RequestSpells : (raws : List String) → (segments : List (List Char)) → Prop
  | nil : RequestSpells [] []
  | cons {raw : String} {raws : List String} {segments later : List (List Char)}
    (first : Spells raw.toList segments) (rest : RequestSpells raws later) :
    RequestSpells (raw :: raws) (segments ++ later)

/-- The segment of a part is what trimming leaves of it. -/
theorem padded_iff {part segment : List Char} : Padded part segment ↔ segment = trim part := by
  constructor
  · rintro ⟨hbefore, hhead, hlast, hafter⟩
    rw [trim_append_blanks hbefore hafter, trim_eq_self_iff.mpr ⟨hhead, hlast⟩]
  · rintro rfl
    obtain ⟨before, after, hpart, hbefore, hafter⟩ := exists_blanks_trim part
    have hpadded : Padded (before ++ trim part ++ after) (trim part) :=
      ⟨hbefore, fun _ => not_blank_of_head?_trim, fun _ => not_blank_of_getLast?_trim, hafter⟩
    rwa [← hpart] at hpadded

/-- The segments that a text spells are those between its commas. -/
theorem Spells.eq_splitOn {text : List Char} {segments : List (List Char)}
    (h : Spells text segments) : segments = (text.splitOn ',').map trim := by
  induction h with
  | last comma padded =>
    rw [List.splitOn_eq_singleton comma, List.map_singleton, padded_iff.mp padded]
  | more comma padded _ ih =>
    rw [List.splitOn_append_cons_self, List.splitOn_eq_singleton comma, List.map_append,
      List.map_singleton, padded_iff.mp padded, ih, List.singleton_append]

/-- Every text spells some segments. -/
theorem exists_spells (text : List Char) : ∃ segments, Spells text segments := by
  -- The induction is on the length, since a comma can stand anywhere.
  induction hlength : text.length using Nat.strong_induction_on generalizing text with
  | _ n ih =>
    by_cases hcomma : ',' ∈ text
    · obtain ⟨part, later, rfl, hpart⟩ := List.eq_append_cons_of_mem hcomma
      have hshorter : later.length < n := by
        rw [← hlength, List.length_append, List.length_cons]
        omega
      obtain ⟨segments, hrest⟩ := ih later.length hshorter later rfl
      exact ⟨_, .more hpart (padded_iff.mpr rfl) hrest⟩
    · exact ⟨_, .last hcomma (padded_iff.mpr rfl)⟩

/-- An element spells the segments that are read from it, and nothing else. -/
theorem spells_iff {raw : String} {spelled : List (List Char)} :
    Spells raw.toList spelled ↔ spelled = segments raw := by
  constructor
  · exact Spells.eq_splitOn
  · rintro rfl
    obtain ⟨spelled, h⟩ := exists_spells raw.toList
    obtain rfl := h.eq_splitOn
    exact h

/-- And so does a request. -/
theorem requestSpells_iff {raws : List String} {spelled : List (List Char)} :
    RequestSpells raws spelled ↔ spelled = raws.flatMap segments := by
  constructor
  · intro h
    induction h with
    | nil => rfl
    | cons first _ ih => rw [spells_iff.mp first, ih, List.flatMap_cons]
  · rintro rfl
    induction raws with
    | nil => exact .nil
    | cons raw rest ih =>
      rw [List.flatMap_cons]
      exact .cons (spells_iff.mpr rfl) ih

/-! ## What is accepted -/

/-- A segment that is short enough and holds no control character. -/
structure Acceptable (segment : List Char) : Prop where
  short : (String.ofList segment).utf8ByteSize ≤ 256
  control : ∀ c ∈ segment, isControl c = false

/-- Acceptable segments are those without an offence. -/
theorem offence?_eq_none_iff_acceptable {segment : List Char} :
    offence? segment = none ↔ Acceptable segment := by
  rw [offence?_eq_none_iff, byteLength_eq_utf8ByteSize]
  exact ⟨fun ⟨hshort, hcontrol⟩ => ⟨hshort, hcontrol⟩, fun h => ⟨h.short, h.control⟩⟩

/-- The text of the fault of a segment that is not acceptable: of its length, if that is too long,
and else of its control characters. -/
def complaint (segment : List Char) : String :=
  if 256 < (String.ofList segment).utf8ByteSize then "product id exceeds 256 bytes"
  else "product id " ++ quote (String.ofList segment) ++ " contains control characters"

/-- This is the text of the offence that is found. -/
theorem offence?_eq_some {segment : List Char} (h : ¬ Acceptable segment) :
    ∃ offence, offence? segment = some offence ∧ offence.message = complaint segment := by
  have hbytes : byteLength segment = (String.ofList segment).utf8ByteSize :=
    byteLength_eq_utf8ByteSize segment
  by_cases hlong : 256 < byteLength segment
  · refine ⟨.tooLong, if_pos hlong, ?_⟩
    rw [complaint, ← hbytes, if_pos hlong]
    rfl
  · have hcontrol : segment.any isControl = true := by
      by_contra hnone
      refine h (offence?_eq_none_iff_acceptable.mp ?_)
      rw [offence?, if_neg hnone]
      exact if_neg hlong
    refine ⟨.control (String.ofList segment), ?_, ?_⟩
    · rw [offence?, if_pos hcontrol]
      exact if_neg hlong
    · rw [complaint, ← hbytes, if_neg hlong]
      rfl

/-- The empty segments, which do not count, have no offence either. -/
theorem findSome?_named (raws : List String) :
    (named raws).findSome? offence? = (raws.flatMap segments).findSome? offence? := by
  unfold named
  induction raws.flatMap segments with
  | nil => rfl
  | cons segment rest ih =>
    cases segment with
    | nil => exact ih
    | cons c later =>
      rw [List.filter_cons_of_pos (by simp), List.findSome?_cons, List.findSome?_cons, ih]

/-- A request is refused for its first segment that is not acceptable. -/
theorem parse_eq_error_iff {raws : List String} {fault : Fault} :
    parse raws = .error fault ↔
      ∃ earlier segment later, raws.flatMap segments = earlier ++ segment :: later ∧
        (∀ other ∈ earlier, Acceptable other) ∧ ¬ Acceptable segment ∧
        fault = .malformedInput (complaint segment) := by
  rw [parse_eq, findSome?_named]
  constructor
  · intro h
    split at h
    · rename_i offence hfirst
      obtain ⟨earlier, segment, later, hspelled, hoffence, hearlier⟩ :=
        List.findSome?_eq_some_iff.mp hfirst
      have hbad : ¬ Acceptable segment := by
        intro hgood
        rw [offence?_eq_none_iff_acceptable.mpr hgood] at hoffence
        cases hoffence
      obtain ⟨same, hsame, hmessage⟩ := offence?_eq_some hbad
      obtain rfl := Option.some.inj (hsame.symm.trans hoffence)
      refine ⟨earlier, segment, later, hspelled, ?_, hbad, ?_⟩
      · exact fun other hother => offence?_eq_none_iff_acceptable.mp (hearlier other hother)
      · rw [← hmessage]
        exact (Except.error.inj h).symm
    · cases h
  · rintro ⟨earlier, segment, later, hspelled, hearlier, hbad, rfl⟩
    obtain ⟨offence, hoffence, hmessage⟩ := offence?_eq_some hbad
    have hfirst : (raws.flatMap segments).findSome? offence? = some offence :=
      List.findSome?_eq_some_iff.mpr ⟨earlier, segment, later, hspelled, hoffence,
        fun other hother => offence?_eq_none_iff_acceptable.mpr (hearlier other hother)⟩
    rw [hfirst, ← hmessage]

/-- A request is accepted if all of its segments are. -/
theorem not_malformed_iff {raws : List String} :
    ¬ Malformed raws ↔ ∀ segment ∈ raws.flatMap segments, Acceptable segment := by
  have hnamed : (named raws).findSome? offence? = none ↔
      (raws.flatMap segments).findSome? offence? = none := by rw [findSome?_named]
  simp only [List.findSome?_eq_none_iff, offence?_eq_none_iff_acceptable] at hnamed
  rw [← hnamed, malformed_iff]
  simp only [not_exists, not_and, ne_eq, not_not, offence?_eq_none_iff_acceptable]

/-- The empty segment is acceptable, so that it need not be looked at. -/
theorem acceptable_iff_of_ne_nil {segment : List Char} :
    (segment ≠ [] → Acceptable segment) ↔ Acceptable segment := by
  refine ⟨fun h => ?_, fun h _ => h⟩
  by_cases hnil : segment = []
  · subst hnil
    exact ⟨by decide, by simp⟩
  · exact h hnil

/-! ## Control characters that are blank -/

/-- Whatever blanks stand around the text of an id, control characters or not, it is read as this
id. -/
theorem parse_padded {id : ProductId} (h : id.Excludable) {before after : List Char}
    (hbefore : ∀ c ∈ before, isBlank c = true) (hafter : ∀ c ∈ after, isBlank c = true) :
    parse [String.ofList (before ++ id.text.toList ++ after)] = .ok (.ofList [id]) := by
  have hcomma : ∀ {blanks : List Char}, (∀ c ∈ blanks, isBlank c = true) → ',' ∉ blanks := by
    intro blanks hblanks hmem
    cases hblanks _ hmem
  have hpart : ',' ∉ before ++ id.text.toList ++ after := by
    simp only [List.mem_append, not_or]
    exact ⟨⟨hcomma hbefore, h.comma⟩, hcomma hafter⟩
  have hsegments : segments (String.ofList (before ++ id.text.toList ++ after)) =
      segments id.text := by
    rw [segments_of_trimmed h.trim_eq h.comma, segments, String.toList_ofList,
      List.splitOn_eq_singleton hpart, List.map_singleton, trim_append_blanks hbefore hafter,
      h.trim_eq]
  rw [← parse_text h]
  apply parse_congr
  rw [named, named, List.flatMap_singleton, List.flatMap_singleton, hsegments]

/-- A control character between characters that are no blanks is refused, wherever it stands. -/
theorem malformed_of_control {front back : List Char} {c : Char} (hcontrol : isControl c = true)
    (hfront : ∃ other ∈ front, isBlank other = false)
    (hback : ∃ other ∈ back, isBlank other = false) (hcomma : ',' ∉ front ++ back)
    (raws later : List String) :
    Malformed (raws ++ String.ofList (front ++ c :: back) :: later) := by
  have hc : c ≠ ',' := by
    rintro rfl
    cases hcontrol
  have hpart : ',' ∉ front ++ c :: back := by
    simp only [List.mem_append, List.mem_cons, not_or] at hcomma ⊢
    exact ⟨hcomma.1, hc.symm, hcomma.2⟩
  have hinside : c ∈ trim (front ++ c :: back) := mem_trim_of_between hfront hback c
  have hspelled : trim (front ++ c :: back) ∈
      (raws ++ String.ofList (front ++ c :: back) :: later).flatMap segments := by
    refine List.mem_flatMap.mpr ⟨String.ofList (front ++ c :: back), by simp, ?_⟩
    rw [segments, String.toList_ofList, List.splitOn_eq_singleton hpart]
    exact List.mem_singleton_self _
  by_contra haccepted
  have hgood := not_malformed_iff.mp haccepted _ hspelled
  rw [hgood.control c hinside] at hcontrol
  cases hcontrol

/-- Requests are read by their grammar. Every request spells one list of segments. It is accepted
exactly if each of them that is not empty has at most 256 bytes and no control character, and then
it is read as the set of those that are not empty. Otherwise it is malformed input, and the text of
the fault is about the first segment that is not acceptable: about its length if it is too long,
whatever it holds, and else about its control characters, with the segment quoted.

So blanks are accepted around a segment even where they are control characters, while a control
character inside a segment is refused even where it is a blank. -/
theorem parse_grammar :
    (∀ raws, ∃! spelled, RequestSpells raws spelled) ∧
    (∀ raws spelled, RequestSpells raws spelled →
      ((∃ ids, parse raws = .ok ids) ↔ ∀ segment ∈ spelled, segment ≠ [] → Acceptable segment) ∧
      (∀ ids, parse raws = .ok ids →
        ∀ id, id ∈ ids ↔ id.text.toList ∈ spelled ∧ id.text.toList ≠ []) ∧
      (∀ fault, parse raws = .error fault ↔
        ∃ earlier segment later, spelled = earlier ++ segment :: later ∧
          (∀ other ∈ earlier, other ≠ [] → Acceptable other) ∧
          segment ≠ [] ∧ ¬ Acceptable segment ∧
          fault = .malformedInput (complaint segment))) ∧
    (∀ (id : ProductId) (before after : List Char), id.Excludable →
      (∀ c ∈ before, isBlank c = true) → (∀ c ∈ after, isBlank c = true) →
      parse [String.ofList (before ++ id.text.toList ++ after)] = .ok (.ofList [id])) ∧
    (∀ (front back : List Char) (c : Char) (raws later : List String), isControl c = true →
      (∃ other ∈ front, isBlank other = false) → (∃ other ∈ back, isBlank other = false) →
      ',' ∉ front ++ back →
      ∃ text, parse (raws ++ String.ofList (front ++ c :: back) :: later) =
        .error (.malformedInput text)) := by
  refine ⟨?_, ?_, ?_, ?_⟩
  · intro raws
    exact ⟨_, requestSpells_iff.mpr rfl, fun _ h => requestSpells_iff.mp h⟩
  · intro raws spelled hspelled
    obtain rfl := requestSpells_iff.mp hspelled
    -- Which requests are accepted, as which set, and what the fault of the others is.
    refine ⟨?_, ?_, ?_⟩
    · simp only [acceptable_iff_of_ne_nil]
      rw [← not_malformed_iff]
      constructor
      · rintro ⟨ids, hids⟩
        exact (parse_eq_ok_iff.mp hids).1
      · intro haccepted
        obtain ⟨ids, hids, -⟩ := parse_of_not_malformed haccepted
        exact ⟨ids, hids⟩
    · intro ids hids id
      rw [(parse_eq_ok_iff.mp hids).2, named, List.mem_filter]
      simp
    · intro fault
      rw [parse_eq_error_iff]
      simp only [acceptable_iff_of_ne_nil]
      constructor
      · rintro ⟨earlier, segment, later, hsplit, hearlier, hbad, hfault⟩
        -- The empty segment is acceptable, so this one is not empty.
        have hne : segment ≠ [] := by
          rintro rfl
          exact hbad (acceptable_iff_of_ne_nil.mp fun h => absurd rfl h)
        exact ⟨earlier, segment, later, hsplit, hearlier, hne, hbad, hfault⟩
      · rintro ⟨earlier, segment, later, hsplit, hearlier, -, hbad, hfault⟩
        exact ⟨earlier, segment, later, hsplit, hearlier, hbad, hfault⟩
  · exact fun id before after h hbefore hafter => parse_padded h hbefore hafter
  · intro front back c raws later hcontrol hfront hback hcomma
    obtain ⟨offence, hparse⟩ :=
      parse_of_malformed (malformed_of_control hcontrol hfront hback hcomma raws later)
    exact ⟨offence.message, hparse⟩

/-- Of two segments that are not acceptable the first is complained of, with a tab at the front of
the one before it accepted; and a tab and a next line around an id are no part of it, while a tab in
the middle of one is refused. -/
theorem parse_grammar_of_two_offences :
    RequestSpells ["a,\tb", "c\x01d,,e\x02f"]
      [['a'], ['b'], ['c', '\x01', 'd'], [], ['e', '\x02', 'f']] ∧
    parse ["a,\tb", "c\x01d,,e\x02f"] =
      .error (.malformedInput "product id \"c\\u\x7b1\x7dd\" contains control characters") ∧
    parse ["\tb\x85"] = .ok (.ofList [⟨"b"⟩]) ∧
    ∃ text, parse ["a", "b\tc"] = .error (.malformedInput text) := by
  obtain ⟨-, hgrammar, haround, hinside⟩ := parse_grammar
  have hspells : RequestSpells ["a,\tb", "c\x01d,,e\x02f"]
      [['a'], ['b'], ['c', '\x01', 'd'], [], ['e', '\x02', 'f']] :=
    requestSpells_iff.mpr (by decide +kernel)
  have hgood : ∀ c : Char, c = 'a' ∨ c = 'b' → Acceptable [c] := by
    rintro c (rfl | rfl) <;> exact ⟨by decide, List.forall_mem_singleton.mpr (by decide)⟩
  have hbad : ¬ Acceptable ['c', '\x01', 'd'] := by
    intro h
    exact absurd (h.control '\x01' (by simp)) (by decide)
  have htext : complaint ['c', '\x01', 'd'] =
      "product id \"c\\u\x7b1\x7dd\" contains control characters" := by decide +kernel
  obtain ⟨-, -, hfault⟩ := hgrammar _ _ hspells
  refine ⟨hspells, ?_, ?_, ?_⟩
  · refine (hfault _).mpr ⟨[['a'], ['b']], ['c', '\x01', 'd'], [[], ['e', '\x02', 'f']], rfl, ?_,
      by simp, hbad, by rw [htext]⟩
    intro other hother _
    rcases List.mem_cons.mp hother with rfl | hother
    · exact hgood 'a' (Or.inl rfl)
    · obtain rfl := List.mem_singleton.mp hother
      exact hgood 'b' (Or.inr rfl)
  · exact haround ⟨"b"⟩ ['\t'] ['\x85'] (by decide +kernel)
      (List.forall_mem_singleton.mpr (by decide)) (List.forall_mem_singleton.mpr (by decide))
  · exact hinside ['b'] ['c'] '\t' ["a"] [] (by decide) ⟨'b', by decide⟩ ⟨'c', by decide⟩
      (by decide)

end Shortlist.Exclusions
