import Mathlib.Data.List.Perm.Subperm
import Shortlist.Proofs.Pool.Gradual

/-!
# One merge or two

A listing that comes in two parts can be merged at once, or one part after the other. The ids that
come are the same (`newcomers_append`), but the second merge sees a pool from which the first has
dropped ids. As long as the second part names none of these, both ways come to the same
(`Consistent.merge_append`). If it names one, that id is appended once more, and the two merges
report more appended ids than the one (`Consistent.added_lt_of_mem_dropped`). `merge_append_iff`
puts the two together.
-/

namespace Shortlist

/-! ## Newcomers of two lists -/

/-- Which ids of a listing are held is all that its newcomers depend on. -/
theorem newcomers_congr {held held' fresh : List ProductId}
    (h : ∀ id ∈ fresh, id ∈ held ↔ id ∈ held') : newcomers held fresh = newcomers held' fresh := by
  have hfilter : fresh.filter (· ∉ held) = fresh.filter (· ∉ held') := by
    apply List.filter_congr
    intro id hid
    rw [decide_eq_decide, h id hid]
  rw [newcomers, newcomers, hfilter]

/-- The newcomers of two lists are those of the first and then, with these held, those of the
second. -/
theorem newcomers_append (held first second : List ProductId) :
    newcomers held (first ++ second) =
      newcomers held first ++ newcomers (held ++ newcomers held first) second := by
  unfold newcomers
  rw [List.filter_append, List.eraseDups_append, List.removeAll, List.filter_filter]
  congr 2
  -- To be left out as a repeat of the first list is to be held by then.
  apply List.filter_congr
  intro id _
  rw [Bool.eq_iff_iff]
  simp [and_comm]

/-- The more is held, the fewer are the newcomers, and fewer still if an id of the listing is among
what is held in addition. -/
theorem length_newcomers_lt {held held' fresh : List ProductId} (hsub : held ⊆ held')
    {id : ProductId} (hid : id ∈ fresh) (hout : id ∉ held) (hin : id ∈ held') :
    (newcomers held' fresh).length < (newcomers held fresh).length := by
  have hnodup : (id :: newcomers held' fresh).Nodup := by
    apply List.nodup_cons.mpr
    refine ⟨?_, nodup_newcomers held' fresh⟩
    intro hnew
    exact (mem_newcomers.mp hnew).2 hin
  have hsubset : id :: newcomers held' fresh ⊆ newcomers held fresh := by
    intro other hother
    rcases List.mem_cons.mp hother with rfl | hother
    · exact mem_newcomers.mpr ⟨hid, hout⟩
    · obtain ⟨hfresh, hother⟩ := mem_newcomers.mp hother
      exact mem_newcomers.mpr ⟨hfresh, fun hheld => hother (hsub hheld)⟩
  have hlength := (hnodup.subperm hsubset).length_le
  rw [List.length_cons] at hlength
  omega

/-! ## What two merges changed -/

/-- What two merges changed together. -/
instance : Add Merged := ⟨fun a b => ⟨a.added + b.added, a.evicted + b.evicted⟩⟩

namespace Pool

/-! ## What a merge drops -/

/-- The ids that a merge drops, oldest first. -/
def dropped (p : Pool) (fresh : List ProductId) (bound : Nat) : List ProductId :=
  (p.append fresh).entries.take ((p.append fresh).size - bound)

/-- A merge divides all ids that are there into those that it drops and those that it leaves. -/
theorem dropped_append_merge (p : Pool) (fresh : List ProductId) (bound : Nat) :
    p.dropped fresh bound ++ (p.merge fresh bound).1.entries = (p.append fresh).entries :=
  List.take_append_drop _ _

/-- As many ids are dropped as the merge reports. -/
theorem length_dropped (p : Pool) (fresh : List ProductId) (bound : Nat) :
    (p.dropped fresh bound).length = (p.merge fresh bound).2.evicted := by
  have hevicted : (p.merge fresh bound).2.evicted = (p.append fresh).size - bound := rfl
  have hlength : (p.append fresh).size = (p.append fresh).entries.length := rfl
  rw [dropped, List.length_take, hevicted]
  omega

namespace Consistent

variable {p : Pool} (hp : p.Consistent) (first second : List ProductId) (bound : Nat)

include hp

/-- All ids that are there before the dropping are the old entries and the newcomers, and they are
the dropped ones and the others. -/
theorem dropped_append_merge_eq :
    p.dropped first bound ++ (p.merge first bound).1.entries =
      p.entries ++ newcomers p.entries first := by
  rw [dropped_append_merge, hp.append_entries]

/-- If the second part names no id that the first has made drop, one merge does what two do. -/
theorem merge_append (h : ∀ id ∈ second, id ∉ p.dropped first bound) :
    p.merge (first ++ second) bound =
      (((p.merge first bound).1.merge second bound).1,
        (p.merge first bound).2 + ((p.merge first bound).1.merge second bound).2) := by
  have hmid := hp.merge first bound
  have hall := hp.dropped_append_merge_eq first bound
  -- Both ways find the same newcomers in the second part.
  have hnew : newcomers (p.entries ++ newcomers p.entries first) second =
      newcomers (p.merge first bound).1.entries second := by
    apply newcomers_congr
    intro id hid
    rw [← hall, List.mem_append, or_iff_right (h id hid)]
  have hentries : (p.merge (first ++ second) bound).1.entries =
      ((p.merge first bound).1.merge second bound).1.entries := by
    rw [hp.merge_entries, hmid.merge_entries, hp.merge_entries first, rtake_append_rtake,
      newcomers_append, hnew, hp.merge_entries first, List.append_assoc]
  have hsize := hp.merge_size first bound
  have hadded : (p.merge (first ++ second) bound).2.added =
      (p.merge first bound).2.added + ((p.merge first bound).1.merge second bound).2.added := by
    rw [hp.merge_added, hp.merge_added, hmid.merge_added, newcomers_append, hnew,
      List.length_append]
  have hevicted : (p.merge (first ++ second) bound).2.evicted =
      (p.merge first bound).2.evicted +
        ((p.merge first bound).1.merge second bound).2.evicted := by
    rw [hp.merge_evicted, hp.merge_evicted, hmid.merge_evicted, newcomers_append, hnew,
      List.length_append]
    omega
  have hpool := (hp.merge (first ++ second) bound).eq_of_entries (hmid.merge second bound) hentries
  exact Prod.ext hpool (Merged.ext hadded hevicted)

/-- If the second part names an id that the first has made drop, two merges append more ids than
one, for they append this one twice. -/
theorem added_lt_of_mem_dropped {id : ProductId} (hid : id ∈ second)
    (hdropped : id ∈ p.dropped first bound) :
    (p.merge (first ++ second) bound).2.added <
      (p.merge first bound).2.added + ((p.merge first bound).1.merge second bound).2.added := by
  have hmid := hp.merge first bound
  have hall := hp.dropped_append_merge_eq first bound
  have hsub : (p.merge first bound).1.entries ⊆ p.entries ++ newcomers p.entries first := by
    rw [← hall]
    exact List.subset_append_right _ _
  have hin : id ∈ p.entries ++ newcomers p.entries first := by
    rw [← hall]
    exact List.mem_append_left _ hdropped
  -- What is dropped is not among what is left, since no id stands twice.
  have hout : id ∉ (p.merge first bound).1.entries := by
    have hnodup := (hp.append first).nodup
    rw [← dropped_append_merge p first bound] at hnodup
    exact List.disjoint_of_nodup_append hnodup hdropped
  have hlt := length_newcomers_lt hsub hid hout hin
  rw [hp.merge_added, hp.merge_added, hmid.merge_added, newcomers_append, List.length_append]
  omega

end Consistent

/-- One merge and two. Whatever merges have made the pool and whatever the bound, a listing that is
merged at once leaves the same entries in the same order as the same listing merged in two parts,
and changes as much as both together, if and only if the second part names no id that the merge of
the first part dropped. -/
theorem merge_append_iff (merges : List (List ProductId × Nat)) (first second : List ProductId)
    (bound : Nat) :
    let p := afterMerges merges
    let once := p.merge (first ++ second) bound
    let part := p.merge first bound
    let rest := part.1.merge second bound
    (once.1.entries = rest.1.entries ∧ once.2 = part.2 + rest.2) ↔
      ∀ id ∈ second, id ∉ p.dropped first bound := by
  intro p once part rest
  have hp : p.Consistent := consistent_afterMerges merges
  constructor
  · rintro ⟨-, hmerged⟩ id hid hdropped
    have hlt : once.2.added < part.2.added + rest.2.added :=
      hp.added_lt_of_mem_dropped first second bound hid hdropped
    have heq : once.2.added = part.2.added + rest.2.added := by
      rw [hmerged]
      rfl
    omega
  · intro h
    have heq : once = (rest.1, part.2 + rest.2) := hp.merge_append first second bound h
    rw [heq]
    exact ⟨rfl, rfl⟩

/-- Where there is no room at all, the entries agree and only what has changed tells the ways
apart. -/
example :
    let rest := (empty.merge [⟨"a"⟩] 0).1.merge [⟨"a"⟩] 0
    (empty.merge [⟨"a"⟩, ⟨"a"⟩] 0).1.entries = rest.1.entries ∧
      (empty.merge [⟨"a"⟩, ⟨"a"⟩] 0).2 = ⟨1, 1⟩ ∧
      (empty.merge [⟨"a"⟩] 0).2 + rest.2 = ⟨2, 2⟩ := by
  decide +kernel

end Pool

end Shortlist
