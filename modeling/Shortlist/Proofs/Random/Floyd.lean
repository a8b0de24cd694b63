import Shortlist.Proofs.Random.Choices
import Shortlist.Random.Sampling

/-!
# Floyd's way of sampling

A sample below `j` grows by a choice `t ≤ j` to a sample below `j + 1`: the choice itself stands at
the end, and if it was there before, `j` is in its old place. So the step can be undone
(`floydLeave`): the last position is the choice, and if `j` stands before it, then the choice stood
there. Undone step by step, a sample gives back the whole vector of choices that has led to it, and
every sample below `length` is the end of such a run; Floyd's way is a bijection from the vectors of
choices to the samples (`floyd_bijOn`).
-/

namespace Shortlist.Random

/-- A sample with a new position behind it is a sample. -/
theorem IsSample.concat {length amount position : Nat} {positions : List Nat}
    (h : IsSample length amount positions) (hnew : position ∉ positions)
    (hlt : position < length) : IsSample length (amount + 1) (positions ++ [position]) where
  length_eq := by rw [List.length_append, h.length_eq, List.length_singleton]
  nodup := by
    rw [← List.concat_eq_append, List.nodup_concat]
    exact ⟨hnew, h.nodup⟩
  lt_length x hx := by
    rcases List.mem_append.mp hx with hx | hx
    · exact h.lt_length x hx
    · rw [List.mem_singleton.mp hx]
      exact hlt

/-- A sample of the positions below a length does not hold that length. -/
theorem IsSample.length_not_mem {length amount : Nat} {positions : List Nat}
    (h : IsSample length amount positions) : length ∉ positions :=
  fun hmem => Nat.lt_irrefl length (h.lt_length length hmem)

/-! ## Replacing an entry -/

section

variable {xs : List Nat} {t j : Nat}

/-- Only the first place of an entry changes. -/
theorem exists_replace_eq (ht : t ∈ xs) :
    ∃ as bs, xs = as ++ t :: bs ∧ t ∉ as ∧ ∀ j, xs.replace t j = as ++ j :: bs := by
  obtain ⟨as, bs, rfl, has⟩ := List.eq_append_cons_of_mem ht
  refine ⟨as, bs, rfl, has, ?_⟩
  intro j
  rw [List.replace_append, if_neg has, List.replace_cons_self]

/-- An entry that is replaced by a new one can be put back. -/
theorem replace_replace (hj : j ∉ xs) : (xs.replace t j).replace j t = xs := by
  by_cases ht : t ∈ xs
  · obtain ⟨as, bs, rfl, -, hreplace⟩ := exists_replace_eq ht
    have hjas : j ∉ as := fun h => hj (List.mem_append_left _ h)
    rw [hreplace, List.replace_append, if_neg hjas, List.replace_cons_self]
  · rw [List.replace_of_not_mem ht, List.replace_of_not_mem hj]

/-- What replaces an entry is there. -/
theorem mem_replace_self (ht : t ∈ xs) : j ∈ xs.replace t j := by
  obtain ⟨as, bs, -, -, hreplace⟩ := exists_replace_eq ht
  rw [hreplace]
  exact List.mem_append_right _ List.mem_cons_self

/-- An entry after a replacement is an old one or the new one. -/
theorem mem_of_mem_replace {x : Nat} (hx : x ∈ xs.replace t j) : x ∈ xs ∨ x = j := by
  by_cases ht : t ∈ xs
  · obtain ⟨as, bs, rfl, -, hreplace⟩ := exists_replace_eq ht
    rw [hreplace] at hx
    grind
  · rw [List.replace_of_not_mem ht] at hx
    exact Or.inl hx

/-- Where no entry stands twice, none does after the replacement by a new one, and the replaced one
is gone. -/
theorem nodup_replace (hxs : xs.Nodup) (hj : j ∉ xs) (ht : t ∈ xs) :
    (xs.replace t j).Nodup ∧ t ∉ xs.replace t j := by
  obtain ⟨as, bs, rfl, has, hreplace⟩ := exists_replace_eq ht
  rw [hreplace]
  grind

end

/-! ## One step and its way back -/

/-- Undoes a step: the sample before and the choice. -/
def floydLeave (joined : List Nat) (j : Nat) : List Nat × Nat :=
  let t := joined.getLastD 0
  (joined.dropLast.replace j t, t)

theorem floydLeave_concat (xs : List Nat) (t j : Nat) :
    floydLeave (xs ++ [t]) j = (xs.replace j t, t) := by
  simp [floydLeave]

section

variable {j amount : Nat} {sample : List Nat}

/-- A step makes a sample of a sample. -/
theorem floydJoin_mem (hsample : IsSample j amount sample) {t : Nat} (ht : t < j + 1) :
    IsSample (j + 1) (amount + 1) (floydJoin sample j t) := by
  have hj : j ∉ sample := hsample.length_not_mem
  have hlt : ∀ x ∈ sample, x < j + 1 := fun x hx => Nat.lt_succ_of_lt (hsample.lt_length x hx)
  unfold floydJoin
  by_cases hmem : t ∈ sample
  · obtain ⟨hnodup, hgone⟩ := nodup_replace hsample.nodup hj hmem
    rw [if_pos hmem]
    refine IsSample.concat ⟨?_, hnodup, ?_⟩ hgone ht
    · rw [List.length_replace, hsample.length_eq]
    · intro x hx
      rcases mem_of_mem_replace hx with hx | rfl
      · exact hlt x hx
      · exact Nat.lt_succ_self x
  · rw [if_neg hmem]
    exact IsSample.concat ⟨hsample.length_eq, hsample.nodup, hlt⟩ hmem ht

/-- A step can be undone. -/
theorem floydLeave_floydJoin (hsample : IsSample j amount sample) (t : Nat) :
    floydLeave (floydJoin sample j t) j = (sample, t) := by
  have hj : j ∉ sample := hsample.length_not_mem
  unfold floydJoin
  rw [floydLeave_concat]
  by_cases hmem : t ∈ sample
  · rw [if_pos hmem, replace_replace hj]
  · rw [if_neg hmem, List.replace_of_not_mem hj]

/-- Every sample below `j + 1` is made by a step, namely by the one that is undone. -/
theorem exists_floydJoin_eq {joined : List Nat} (hjoined : IsSample (j + 1) (amount + 1) joined) :
    ∃ sample t, IsSample j amount sample ∧ t < j + 1 ∧ floydJoin sample j t = joined := by
  have hne : joined ≠ [] := by
    rintro rfl
    exact absurd hjoined.length_eq (Nat.succ_ne_zero amount).symm
  obtain ⟨xs, t, rfl⟩ := (List.eq_nil_or_concat' joined).resolve_left hne
  have hlength : xs.length = amount := by
    have h := hjoined.length_eq
    rw [List.length_append, List.length_singleton] at h
    omega
  obtain ⟨ht, hnodup⟩ : t ∉ xs ∧ xs.Nodup := by
    have h := hjoined.nodup
    rwa [← List.concat_eq_append, List.nodup_concat] at h
  have hlt : ∀ x ∈ xs, x < j + 1 := fun x hx => hjoined.lt_length x (List.mem_append_left _ hx)
  have htlt : t < j + 1 := hjoined.lt_length t (List.mem_append_right _ (List.mem_singleton_self t))
  by_cases hj : j ∈ xs
  · -- The choice was there before, where `j` stands now.
    obtain ⟨hnodup', hgone⟩ := nodup_replace hnodup ht hj
    refine ⟨xs.replace j t, t, ⟨?_, hnodup', ?_⟩, htlt, ?_⟩
    · rw [List.length_replace, hlength]
    · intro x hx
      have hne : x ≠ j := fun h => hgone (h ▸ hx)
      have htj : t ≠ j := fun h => ht (h ▸ hj)
      rcases mem_of_mem_replace hx with hx | rfl
      · have hle := hlt x hx
        omega
      · omega
    · rw [floydJoin, if_pos (mem_replace_self hj), replace_replace ht]
  · -- The choice was new.
    refine ⟨xs, t, ⟨hlength, hnodup, ?_⟩, htlt, ?_⟩
    · intro x hx
      have hne : x ≠ j := fun h => hj (h ▸ hx)
      have hle := hlt x hx
      omega
    · rw [floydJoin, if_neg ht]

end

/-! ## All steps -/

/-- The last choice joins the sample of the others. -/
theorem floydFrom_concat (sample : List Nat) (j : Nat) (choices : List Nat) (t : Nat) :
    floydFrom sample j (choices ++ [t]) =
      floydJoin (floydFrom sample j choices) (j + choices.length) t := by
  induction choices generalizing sample j with
  | nil => rfl
  | cons c cs ih =>
    show floydFrom (floydJoin sample j c) (j + 1) (cs ++ [t]) = _
    rw [ih, List.length_cons, Nat.add_assoc j 1, Nat.add_comm 1]
    rfl

/-- From the empty sample below `j`, the vectors of choices lead to the samples below `j + amount`,
to each of them exactly one. -/
theorem floydFrom_bijOn (j amount : Nat) :
    Set.BijOn (floydFrom [] j) (choiceVectors (List.range' (j + 1) amount))
      (samples (j + amount) amount) := by
  induction amount with
  | zero =>
    rw [List.range'_zero, choiceVectors_nil, samples_zero]
    exact Set.bijOn_singleton.mpr rfl
  | succ amount ih =>
    obtain ⟨hmaps, hinj, hsurj⟩ := ih
    have hstep : ∀ {choices : List Nat}, choices ∈ choiceVectors (List.range' (j + 1) amount) →
        ∀ t, floydFrom [] j (choices ++ [t]) =
          floydJoin (floydFrom [] j choices) (j + amount) t := by
      intro choices hchoices t
      rw [floydFrom_concat, length_of_mem_choiceVectors hchoices, List.length_range']
    rw [List.range'_1_concat, ← Nat.add_assoc j amount 1]
    refine ⟨?_, ?_, ?_⟩
    · intro choices hchoices
      obtain ⟨cs, t, hcs, ht, rfl⟩ := mem_choiceVectors_concat.mp hchoices
      rw [hstep hcs]
      exact floydJoin_mem (hmaps hcs) (by omega)
    · intro choices hchoices choices' hchoices' heq
      obtain ⟨cs, t, hcs, ht, rfl⟩ := mem_choiceVectors_concat.mp hchoices
      obtain ⟨cs', t', hcs', ht', rfl⟩ := mem_choiceVectors_concat.mp hchoices'
      -- The last step of both is undone, which gives the same sample and the same choice.
      have hundone := congrArg (floydLeave · (j + amount)) heq
      simp only [hstep hcs, hstep hcs', floydLeave_floydJoin (hmaps hcs),
        floydLeave_floydJoin (hmaps hcs')] at hundone
      obtain ⟨hsample, rfl⟩ := Prod.mk.inj hundone
      rw [hinj hcs hcs' hsample]
    · intro joined hjoined
      obtain ⟨sample, t, hsample, ht, rfl⟩ := exists_floydJoin_eq hjoined
      obtain ⟨cs, hcs, rfl⟩ := hsurj hsample
      exact ⟨cs ++ [t], mem_choiceVectors_concat.mpr ⟨cs, t, hcs, by omega, rfl⟩, hstep hcs t⟩

/-- Floyd's way leads from the vectors of choices to the samples, to each of them from exactly
one. -/
theorem floyd_bijOn {length amount : Nat} (h : amount ≤ length) :
    Set.BijOn (floyd length amount) (choiceVectors (floydRanges length amount))
      (samples length amount) := by
  have hbij := floydFrom_bijOn (length - amount) amount
  rw [Nat.sub_add_cancel h] at hbij
  exact hbij

end Shortlist.Random
