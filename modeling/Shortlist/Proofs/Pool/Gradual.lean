import Shortlist.Proofs.Pool.Merge

/-!
# A merge, one id at a time

`Pool.merge` appends the new ids of a listing at once and drops the excess at once. Done gradually,
each id of the listing is looked up in a set that grows while the listing is read (`takeInAll`), and
then the oldest id is taken out of list and set as long as there are too many (`shrink`). Both come
to the same (`mergeGradually_eq`). As the pool has an oldest id whenever it has more than it may,
the dropping ends because the pool fits, and never because it has run out of ids.

`merges_closed_form` states what a merge does to any pool that merges have made.
-/

namespace Shortlist.Pool

/-! ## Taking in a listing -/

/-- Takes in one id, unless the set holds it, and tells how many were appended. -/
def takeIn (p : Pool) (id : ProductId) : Pool × Nat :=
  if p.contains id then (p, 0) else (⟨p.entries ++ [id], p.members.insert id⟩, 1)

/-- Takes in a listing, each id into the pool that those before it have left. -/
def takeInAll (p : Pool) : List ProductId → Pool × Nat
  | [] => (p, 0)
  | id :: rest =>
    let (p, n) := p.takeIn id
    let (p, m) := p.takeInAll rest
    (p, n + m)

theorem takeInAll_cons (p : Pool) (id : ProductId) (rest : List ProductId) :
    p.takeInAll (id :: rest) = (((p.takeIn id).1.takeInAll rest).1,
      (p.takeIn id).2 + ((p.takeIn id).1.takeInAll rest).2) := rfl

/-- Ids that are taken in one after the other are the new ones of the listing. -/
theorem takeInAll_eq (p : Pool) (fresh : List ProductId) :
    p.takeInAll fresh = (p.append fresh, (p.append fresh).size - p.size) := by
  induction fresh generalizing p with
  | nil => simp [takeInAll, append, ProductSet.arrivals]
  | cons id rest ih =>
    by_cases h : id ∈ p.members
    · have hkept : p.takeIn id = (p, 0) := by
        rw [takeIn, contains, if_pos (Std.ExtTreeSet.contains_iff_mem.mpr h)]
      have happend : p.append (id :: rest) = p.append rest := by
        simp only [append, ProductSet.arrivals_cons_of_mem h]
      rw [takeInAll_cons, hkept, ih, happend, Nat.zero_add]
    · -- The id is appended, so that the rest is read with it in the set.
      have htaken : p.takeIn id = (⟨p.entries ++ [id], p.members.insert id⟩, 1) := by
        rw [takeIn, contains, if_neg (mt Std.ExtTreeSet.contains_iff_mem.mp h)]
      have happend : p.append (id :: rest) =
          append ⟨p.entries ++ [id], p.members.insert id⟩ rest := by
        simp only [append, ProductSet.arrivals_cons_of_not_mem h, List.append_assoc,
          List.singleton_append]
      rw [takeInAll_cons, htaken, ih, happend]
      simp only [append, size, List.length_append, List.length_singleton]
      congr 1
      omega

/-! ## Dropping the excess -/

/-- Takes the oldest id out of list and set, if there is one. -/
def popOldest? (p : Pool) : Option Pool :=
  match p.entries with
  | [] => none
  | oldest :: rest => some ⟨rest, p.members.erase oldest⟩

/-- Taking the oldest id out drops one id. -/
theorem popOldest?_of_size_pos {p : Pool} (h : 0 < p.size) :
    p.popOldest? = some (p.dropOldest 1) := by
  unfold popOldest? dropOldest
  unfold size at h
  rcases hentries : p.entries with _ | ⟨oldest, rest⟩
  · rw [hentries] at h
    cases h
  · rfl

/-- Taking an id out leaves a smaller pool. -/
theorem size_lt_of_popOldest? {p rest : Pool} (h : p.popOldest? = some rest) :
    rest.size < p.size := by
  unfold popOldest? at h
  unfold size
  rcases hentries : p.entries with _ | ⟨oldest, others⟩ <;> rw [hentries] at h
  · cases h
  · obtain rfl := Option.some.inj h
    exact Nat.lt_succ_self _

/-- Dropping ids leaves so many fewer. -/
theorem dropOldest_size (p : Pool) (n : Nat) : (p.dropOldest n).size = p.size - n :=
  List.length_drop

/-- To drop one id and then more is to drop them all. -/
theorem dropOldest_dropOldest (p : Pool) (m n : Nat) :
    (p.dropOldest m).dropOldest n = p.dropOldest (m + n) := by
  unfold dropOldest
  rw [List.drop_drop, List.take_add, List.foldl_append]

/-- Why the dropping of ids comes to an end. -/
inductive Halt where
  /-- The pool fits its bound. -/
  | fits
  /-- The pool has no id that could be dropped. -/
  | exhausted
  deriving DecidableEq, Repr

/-- Drops the oldest id as long as the pool exceeds the bound, and tells how many were dropped and
why no more. -/
def shrink (p : Pool) (bound : Nat) : Pool × Nat × Halt :=
  if bound < p.size then
    match hpop : p.popOldest? with
    | none => (p, 0, .exhausted)
    | some rest =>
      have : rest.size < p.size := size_lt_of_popOldest? hpop
      let (q, n, halt) := rest.shrink bound
      (q, n + 1, halt)
  else (p, 0, .fits)
termination_by p.size

/-- The excess is dropped, and then the pool fits. -/
theorem shrink_eq (p : Pool) (bound : Nat) :
    p.shrink bound = (p.dropOldest (p.size - bound), p.size - bound, .fits) := by
  -- The induction is on the excess.
  induction hexcess : p.size - bound generalizing p with
  | zero =>
    rw [shrink, if_neg (by omega)]
    rfl
  | succ n ih =>
    have hpos : 0 < p.size := by omega
    have hrest : (p.dropOldest 1).size - bound = n := by
      rw [dropOldest_size]
      omega
    rw [shrink, if_pos (by omega)]
    split
    · rename_i hpop
      rw [popOldest?_of_size_pos hpos] at hpop
      cases hpop
    · rename_i rest hpop
      rw [popOldest?_of_size_pos hpos] at hpop
      obtain rfl := Option.some.inj hpop
      rw [ih _ hrest, dropOldest_dropOldest, Nat.add_comm 1 n]

/-! ## The whole merge -/

/-- Merges a listing gradually: first its ids are taken in one after the other, and then the oldest
ids dropped one after the other. -/
def mergeGradually (p : Pool) (fresh : List ProductId) (bound : Nat) : Pool × Merged × Halt :=
  let (grown, added) := p.takeInAll fresh
  let (left, evicted, halt) := grown.shrink bound
  (left, { added, evicted }, halt)

/-- A gradual merge does what a merge does, and ends because the pool fits. -/
theorem mergeGradually_eq (p : Pool) (fresh : List ProductId) (bound : Nat) :
    p.mergeGradually fresh bound = ((p.merge fresh bound).1, (p.merge fresh bound).2, .fits) := by
  unfold mergeGradually merge
  rw [takeInAll_eq]
  simp only [shrink_eq]

/-- The closed form of a merge. Whatever merges have made the pool, each with its own bound, and
whatever the bound of this one: the entries afterwards are the last of the old entries followed by
the new ids of the listing, as many as there are up to the bound, so that the old ids that are left
stand in their order before the new ones. The set holds exactly these ids. As many ids are appended
as are new, as many dropped as are too many, and the merge counts as truncated if any was. Done
gradually, the merge does the same, and never looks for an oldest id where there is none. -/
theorem merges_closed_form (merges : List (List ProductId × Nat)) (fresh : List ProductId)
    (bound : Nat) :
    let p := afterMerges merges
    let new := newcomers p.entries fresh
    let after := (p.merge fresh bound).1
    let merged := (p.merge fresh bound).2
    after.entries = (p.entries ++ new).rtake (min bound (p.size + new.length)) ∧
      after.entries = p.entries.drop merged.evicted ++ new.drop (merged.evicted - p.size) ∧
      (∀ id, after.contains id = true ↔ id ∈ after.entries) ∧
      merged.added = new.length ∧
      (merged.evicted : Int) = max 0 ((p.size : Int) + new.length - bound) ∧
      (merged.truncated = true ↔ 0 < merged.evicted) ∧
      p.mergeGradually fresh bound = (after, merged, .fits) := by
  intro p new after merged
  have hp : p.Consistent := consistent_afterMerges merges
  have hentries : after.entries = (p.entries ++ new).rtake bound := hp.merge_entries fresh bound
  have hevicted : merged.evicted = p.size + new.length - bound := hp.merge_evicted fresh bound
  have hlength : (p.entries ++ new).length = p.size + new.length := List.length_append
  refine ⟨?_, ?_, ?_, hp.merge_added fresh bound, ?_, ?_, mergeGradually_eq p fresh bound⟩
  · rw [hentries, List.rtake, List.rtake, hlength]
    congr 1
    omega
  · rw [hentries, List.rtake, hlength, ← hevicted, List.drop_append]
    rfl
  · intro id
    rw [contains, Std.ExtTreeSet.contains_iff_mem]
    exact (hp.merge fresh bound).mem_members id
  · rw [hevicted]
    omega
  · rw [Merged.truncated, decide_eq_true_iff]

end Shortlist.Pool
