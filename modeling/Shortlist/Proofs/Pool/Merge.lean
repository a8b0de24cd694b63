import Mathlib.Data.List.DropRight
import Mathlib.Data.List.Nodup
import Shortlist.Pool
import Shortlist.Proofs.Product.Arrivals

/-!
# What a merge does

A pool is kept twice, as a list in the order of arrival and as a set. `Pool.Consistent` says that
the two agree and that no id stands twice in the list. A merge keeps the pool consistent
(`Consistent.merge`), and on a consistent pool it has a form that no longer mentions the set: the
entries afterwards are the last ids of the old entries followed by the newcomers of the listing
(`Consistent.merge_entries`), and as many ids are dropped as exceed the bound
(`Consistent.merge_evicted`). So it is with all pools that merges have made
(`consistent_afterMerges`).
-/

namespace Shortlist

attribute [ext] Merged

/-- The distinct ids of a listing that are not held, in the order of their first occurrence. -/
def newcomers (held fresh : List ProductId) : List ProductId :=
  (fresh.filter (· ∉ held)).eraseDups

/-- A newcomer is an id of the listing that is not held. -/
theorem mem_newcomers {held fresh : List ProductId} {id : ProductId} :
    id ∈ newcomers held fresh ↔ id ∈ fresh ∧ id ∉ held := by
  rw [newcomers, List.mem_eraseDups, List.mem_filter, decide_eq_true_iff]

/-- No newcomer stands twice. -/
theorem nodup_newcomers (held fresh : List ProductId) : (newcomers held fresh).Nodup := by
  have hset : newcomers held fresh = (ProductSet.arrivals (ProductSet.ofList held) fresh).1 := by
    rw [ProductSet.arrivals_fst, newcomers]
    congr 2
    funext id
    rw [decide_eq_decide, ProductSet.mem_ofList]
  rw [hset]
  exact ProductSet.nodup_arrivals _ _

/-- The last `n` elements of a list with a list behind it depend on the last `n` elements of the
first list only. -/
theorem rtake_append_rtake {α : Type} (xs ys : List α) (n : Nat) :
    (xs.rtake n ++ ys).rtake n = (xs ++ ys).rtake n := by
  simp only [List.rtake, List.drop_append, List.drop_drop, List.length_append, List.length_drop]
  congr 2 <;> omega

/-- Erasing the members of a list leaves what is not in it. -/
theorem mem_foldl_erase {ids : List ProductId} {set : ProductSet} {id : ProductId} :
    id ∈ ids.foldl (·.erase ·) set ↔ id ∈ set ∧ id ∉ ids := by
  induction ids generalizing set with
  | nil => simp
  | cons x xs ih =>
    rw [List.foldl_cons, ih, Std.ExtTreeSet.mem_erase, ne_eq, Std.LawfulEqCmp.compare_eq_iff_eq,
      List.mem_cons]
    grind

namespace Pool

/-- The list of a pool has no id twice, and its set holds exactly the ids of the list. -/
structure Consistent (p : Pool) : Prop where
  nodup : p.entries.Nodup
  mem_members : ∀ id, id ∈ p.members ↔ id ∈ p.entries

/-- The pool without ids is consistent. -/
theorem consistent_empty : Consistent empty where
  nodup := List.nodup_nil
  mem_members id := by
    show id ∈ (∅ : ProductSet) ↔ id ∈ []
    simp

namespace Consistent

/-- Consistent pools with the same entries are the same, as the set is determined by the list. -/
theorem eq_of_entries {p q : Pool} (hp : p.Consistent) (hq : q.Consistent)
    (h : p.entries = q.entries) : p = q := by
  have hmembers : p.members = q.members := by
    apply Std.ExtTreeSet.ext_mem
    intro id
    rw [hp.mem_members, hq.mem_members, h]
  cases p
  cases q
  rw [Pool.mk.injEq]
  exact ⟨h, hmembers⟩

variable {p : Pool} (hp : p.Consistent) (fresh : List ProductId) (bound : Nat)

include hp

/-- What is new to the set is new to the list. -/
theorem arrivals_eq_newcomers :
    (ProductSet.arrivals p.members fresh).1 = newcomers p.entries fresh := by
  rw [ProductSet.arrivals_fst, newcomers]
  congr 2
  funext id
  rw [decide_eq_decide, hp.mem_members id]

/-- Appending a listing puts its newcomers behind the entries. -/
theorem append_entries : (p.append fresh).entries = p.entries ++ newcomers p.entries fresh := by
  rw [← hp.arrivals_eq_newcomers]
  rfl

/-- Appending a listing keeps a pool consistent. -/
theorem append : (p.append fresh).Consistent where
  nodup := by
    rw [hp.append_entries, ← hp.arrivals_eq_newcomers, List.nodup_append']
    refine ⟨hp.nodup, ProductSet.nodup_arrivals _ _, ?_⟩
    intro id hold hnew
    exact (ProductSet.mem_arrivals.mp hnew).2 ((hp.mem_members id).mpr hold)
  mem_members id := by
    have hset : (p.append fresh).members = (ProductSet.arrivals p.members fresh).2 := rfl
    rw [hset, ProductSet.mem_arrivals_snd, hp.append_entries, List.mem_append, mem_newcomers,
      hp.mem_members id]
    grind

/-- Dropping the oldest ids keeps a pool consistent: as no id stands twice, the ids that are left
are the others. -/
theorem dropOldest (n : Nat) : (p.dropOldest n).Consistent where
  nodup := hp.nodup.drop
  mem_members id := by
    have hset : (p.dropOldest n).members = (p.entries.take n).foldl (·.erase ·) p.members := rfl
    have hlist : (p.dropOldest n).entries = p.entries.drop n := rfl
    have hsplit : id ∈ p.entries ↔ id ∈ p.entries.take n ∨ id ∈ p.entries.drop n := by
      rw [← List.mem_append, List.take_append_drop]
    have hapart := List.disjoint_take_drop hp.nodup (le_refl n)
    rw [hset, hlist, mem_foldl_erase, hp.mem_members id, hsplit]
    constructor
    · rintro ⟨h | h, hout⟩
      · exact absurd h hout
      · exact h
    · intro h
      exact ⟨Or.inr h, fun htaken => hapart htaken h⟩

/-- A merge keeps a pool consistent. -/
theorem merge : (p.merge fresh bound).1.Consistent :=
  (hp.append fresh).dropOldest _

/-- The entries after a merge are the last of the old entries followed by the newcomers. -/
theorem merge_entries :
    (p.merge fresh bound).1.entries =
      (p.entries ++ newcomers p.entries fresh).rtake bound := by
  rw [← hp.append_entries]
  rfl

/-- As many ids are dropped as the old entries and the newcomers exceed the bound. -/
theorem merge_evicted :
    (p.merge fresh bound).2.evicted =
      p.size + (newcomers p.entries fresh).length - bound := by
  have hgrown : (p.merge fresh bound).2.evicted = (p.append fresh).size - bound := rfl
  rw [hgrown, size, size, hp.append_entries, List.length_append]

/-- As many ids are appended as there are newcomers. -/
theorem merge_added :
    (p.merge fresh bound).2.added = (newcomers p.entries fresh).length := by
  have hgrown : (p.merge fresh bound).2.added = (p.append fresh).size - p.size := rfl
  rw [hgrown, size, size, hp.append_entries, List.length_append, Nat.add_sub_cancel_left]

/-- The size after a merge: all that came together, up to the bound. -/
theorem merge_size :
    (p.merge fresh bound).1.size =
      min bound (p.size + (newcomers p.entries fresh).length) := by
  rw [size, hp.merge_entries, List.rtake, List.length_drop, List.length_append, ← size]
  omega

end Consistent

/-! ## One merge after the other -/

/-- The pool that merges make of the empty one, each with a bound of its own. -/
def afterMerges (merges : List (List ProductId × Nat)) : Pool :=
  merges.foldl (fun p m => (p.merge m.1 m.2).1) .empty

theorem afterMerges_concat (merges : List (List ProductId × Nat)) (fresh : List ProductId)
    (bound : Nat) :
    afterMerges (merges ++ [(fresh, bound)]) = ((afterMerges merges).merge fresh bound).1 := by
  rw [afterMerges, List.foldl_append]
  rfl

/-- What merges make is consistent, whatever their bounds. -/
theorem consistent_afterMerges (merges : List (List ProductId × Nat)) :
    (afterMerges merges).Consistent := by
  induction merges using List.reverseRecOn with
  | nil => exact consistent_empty
  | append_singleton merges m ih =>
    rw [afterMerges_concat]
    exact ih.merge m.1 m.2

end Pool

end Shortlist
