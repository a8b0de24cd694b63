import Shortlist.Product

/-!
# What is new in a list of ids

`ProductSet.arrivals` reads a list against a set. What it keeps are the ids that the set does not
hold, each at its first occurrence (`arrivals_fst`), so no id is kept twice (`nodup_arrivals`), they
stand in the order of these occurrences (`pairwise_arrivals`), and the set that it returns holds the
old members and those of the list (`mem_arrivals_snd`). A list can be read in two parts
(`arrivals_append`), and to read a list that has been read before, against no more than now, is to
read the list itself (`arrivals_arrivals`).
-/

namespace Shortlist.ProductSet

/-- An id that the set holds is passed over. -/
theorem arrivals_cons_of_mem {known : ProductSet} {id : ProductId} (h : id ∈ known)
    (rest : List ProductId) : arrivals known (id :: rest) = arrivals known rest := by
  rw [arrivals, if_pos (Std.ExtTreeSet.contains_iff_mem.mpr h)]

/-- An id that the set does not hold is kept, and the rest is read with it in the set. -/
theorem arrivals_cons_of_not_mem {known : ProductSet} {id : ProductId} (h : id ∉ known)
    (rest : List ProductId) :
    arrivals known (id :: rest) =
      (id :: (arrivals (known.insert id) rest).1, (arrivals (known.insert id) rest).2) := by
  rw [arrivals, if_neg (mt Std.ExtTreeSet.contains_iff_mem.mp h)]

/-- Membership after an insertion, with equality of ids in place of their comparison. -/
theorem mem_insert_iff {known : ProductSet} {id new : ProductId} :
    id ∈ known.insert new ↔ id = new ∨ id ∈ known := by
  rw [Std.ExtTreeSet.mem_insert, Std.LawfulEqCmp.compare_eq_iff_eq, eq_comm]

/-- The set of a list has the members of the list. -/
theorem mem_ofList {ids : List ProductId} {id : ProductId} : id ∈ ofList ids ↔ id ∈ ids := by
  -- The induction is on the list, with whatever set its members are added to.
  have hgeneral : ∀ known : ProductSet,
      id ∈ ids.foldl (·.insert ·) known ↔ id ∈ known ∨ id ∈ ids := by
    induction ids with
    | nil => simp
    | cons first rest ih =>
      intro known
      rw [List.foldl_cons, ih, mem_insert_iff, List.mem_cons, or_comm (b := id ∈ known), or_assoc]
  rw [ofList, hgeneral, or_iff_right Std.ExtTreeSet.not_mem_empty]

/-- The ids that are kept are those of the list that the set does not hold, in the order of their
first occurrence. -/
theorem arrivals_fst (known : ProductSet) (ids : List ProductId) :
    (arrivals known ids).1 = (ids.filter (· ∉ known)).eraseDups := by
  induction ids generalizing known with
  | nil => rfl
  | cons id rest ih =>
    by_cases h : id ∈ known
    · rw [arrivals_cons_of_mem h, ih, List.filter_cons_of_neg (by simpa using h)]
    · -- Being outside the grown set is being another id and outside the set.
      have hout : (fun other => decide (other ∉ known.insert id)) =
          fun other => !other == id && decide (other ∉ known) := by
        funext other
        rw [Bool.eq_iff_iff]
        simp [mem_insert_iff, -Std.ExtTreeSet.mem_insert]
      rw [arrivals_cons_of_not_mem h, List.filter_cons_of_pos (by simpa using h),
        List.eraseDups_cons, List.filter_filter, ih, hout]

/-- An id is kept exactly when the list names it and the set does not hold it. -/
theorem mem_arrivals {known : ProductSet} {ids : List ProductId} {id : ProductId} :
    id ∈ (arrivals known ids).1 ↔ id ∈ ids ∧ id ∉ known := by
  rw [arrivals_fst, List.mem_eraseDups, List.mem_filter, decide_eq_true_iff]

/-- No id is kept twice. -/
theorem nodup_arrivals (known : ProductSet) (ids : List ProductId) :
    (arrivals known ids).1.Nodup := by
  induction ids generalizing known with
  | nil => exact List.nodup_nil
  | cons id rest ih =>
    by_cases h : id ∈ known
    · rw [arrivals_cons_of_mem h]
      exact ih known
    · rw [arrivals_cons_of_not_mem h]
      refine List.nodup_cons.mpr ⟨?_, ih _⟩
      intro hid
      exact (mem_arrivals.mp hid).2 (mem_insert_iff.mpr (Or.inl rfl))

/-- The set afterwards holds what it held and what the list names. -/
theorem mem_arrivals_snd {known : ProductSet} {ids : List ProductId} {id : ProductId} :
    id ∈ (arrivals known ids).2 ↔ id ∈ known ∨ id ∈ ids := by
  induction ids generalizing known with
  | nil => simp [arrivals]
  | cons new rest ih =>
    by_cases h : new ∈ known
    · rw [arrivals_cons_of_mem h, ih, List.mem_cons]
      grind
    · rw [arrivals_cons_of_not_mem h, ih, mem_insert_iff, List.mem_cons]
      grind

/-- What is kept of a list rests on which of its ids the set holds. -/
theorem arrivals_congr {known known' : ProductSet} {ids : List ProductId}
    (h : ∀ id ∈ ids, id ∈ known ↔ id ∈ known') :
    (arrivals known ids).1 = (arrivals known' ids).1 := by
  have hfilter : ids.filter (· ∉ known) = ids.filter (· ∉ known') := by
    apply List.filter_congr
    intro id hid
    simp only [h id hid]
  rw [arrivals_fst, arrivals_fst, hfilter]

/-- To read one list behind another is to read it with what was read before in the set. -/
theorem arrivals_append (known : ProductSet) (ids later : List ProductId) :
    arrivals known (ids ++ later) =
      ((arrivals known ids).1 ++ (arrivals (arrivals known ids).2 later).1,
        (arrivals (arrivals known ids).2 later).2) := by
  induction ids generalizing known with
  | nil => rfl
  | cons id rest ih =>
    rw [List.cons_append]
    by_cases h : id ∈ known
    · rw [arrivals_cons_of_mem h, arrivals_cons_of_mem h, ih]
    · rw [arrivals_cons_of_not_mem h, arrivals_cons_of_not_mem h, ih, List.cons_append]

/-- The ids that are kept stand in the order in which they first occur in the list. -/
theorem pairwise_arrivals (known : ProductSet) (ids : List ProductId) :
    (arrivals known ids).1.Pairwise fun id later => ids.idxOf id < ids.idxOf later := by
  induction ids generalizing known with
  | nil => exact List.Pairwise.nil
  | cons first rest ih =>
    -- Behind the first id, every other id occurs one place later than in the rest.
    have hshift : ∀ {set : ProductSet}, first ∈ set → ∀ id ∈ (arrivals set rest).1,
        (first :: rest).idxOf id = rest.idxOf id + 1 := by
      intro set hset id hid
      have hne : first ≠ id := by
        rintro rfl
        exact (mem_arrivals.mp hid).2 hset
      rw [List.idxOf_cons, beq_false_of_ne hne, cond_false]
    have hrest : ∀ {set : ProductSet}, first ∈ set →
        (arrivals set rest).1.Pairwise fun id later =>
          (first :: rest).idxOf id < (first :: rest).idxOf later := by
      intro set hset
      refine (ih set).imp_of_mem ?_
      intro id later hid hlater hlt
      rw [hshift hset id hid, hshift hset later hlater]
      exact Nat.succ_lt_succ hlt
    by_cases h : first ∈ known
    · rw [arrivals_cons_of_mem h]
      exact hrest h
    · have hset : first ∈ known.insert first := mem_insert_iff.mpr (Or.inl rfl)
      rw [arrivals_cons_of_not_mem h]
      refine List.pairwise_cons.mpr ⟨?_, hrest hset⟩
      intro id hid
      rw [List.idxOf_cons_self, hshift hset id hid]
      exact Nat.succ_pos _

/-- What is new in a list is found among what was new in it before, against a smaller set: what is
passed over there would be passed over here. -/
theorem arrivals_arrivals {known earlier : ProductSet} (h : ∀ id ∈ earlier, id ∈ known)
    (ids : List ProductId) : arrivals known (arrivals earlier ids).1 = arrivals known ids := by
  induction ids generalizing known earlier with
  | nil => rfl
  | cons id rest ih =>
    by_cases hearlier : id ∈ earlier
    · rw [arrivals_cons_of_mem hearlier, arrivals_cons_of_mem (h id hearlier), ih h]
    · rw [arrivals_cons_of_not_mem hearlier]
      by_cases hknown : id ∈ known
      · have hsub : ∀ other ∈ earlier.insert id, other ∈ known := by
          intro other hother
          rcases mem_insert_iff.mp hother with rfl | hother
          · exact hknown
          · exact h other hother
        rw [arrivals_cons_of_mem hknown, arrivals_cons_of_mem hknown, ih hsub]
      · -- Kept both times, so it is in both sets from here on.
        have hsub : ∀ other ∈ earlier.insert id, other ∈ known.insert id := by
          intro other hother
          rw [mem_insert_iff] at hother ⊢
          exact hother.imp_right (h other)
        rw [arrivals_cons_of_not_mem hknown, arrivals_cons_of_not_mem hknown, ih hsub]

end Shortlist.ProductSet
