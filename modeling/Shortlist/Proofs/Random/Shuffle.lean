import Shortlist.Proofs.Random.Choices
import Shortlist.Random.Sampling

/-!
# Sampling by a shuffle of the front

The shuffle works on all positions in an array, but its step at a place looks at the places from
there on alone: it brings the chosen entry to their front and puts the one that stood there in its
place. Read as a list, what is behind the places already settled is shuffled by itself
(`shuffleFrom_toList`). A first entry tells its choice, and the entries behind it are those that are
left, whatever their order; so the vectors of choices correspond to the arrangements of the entries,
one to one (`settle_bijOn`, `shuffle_bijOn`).
-/

namespace Shortlist.Random

/-! ## The shuffle of a list -/

/-- Brings the chosen entries to the front, each of what is behind the ones before it. -/
def settle (rest : List Nat) : List Nat → List Nat
  | [] => rest
  | c :: cs =>
    match rest.swap 0 c with
    | [] => []
    | entry :: rest => entry :: settle rest cs

/-- Nothing is settled where nothing is left. -/
theorem settle_nil (choices : List Nat) : settle [] choices = [] := by
  cases choices <;> rfl

/-- The chosen entry comes to the front. -/
theorem swap_zero_eq {rest : List Nat} {c : Nat} (hc : c < rest.length) :
    rest.swap 0 c = rest[c] :: (rest.swap 0 c).tail := by
  have hpos : 0 < (rest.swap 0 c).length := by
    rw [List.length_swap]
    omega
  have hhead : (rest.swap 0 c)[0] = rest[c] := List.getElem_swap_left_of_lt hc hpos
  cases hswap : rest.swap 0 c with
  | nil =>
    rw [hswap] at hpos
    cases hpos
  | cons entry others =>
    simp only [hswap, List.getElem_cons_zero] at hhead
    rw [hhead, List.tail_cons]

/-- A choice settles the first place. -/
theorem settle_cons {rest : List Nat} {c : Nat} (hc : c < rest.length) (cs : List Nat) :
    settle rest (c :: cs) = rest[c] :: settle (rest.swap 0 c).tail cs := by
  rw [settle, swap_zero_eq hc]
  rfl

/-- Behind the chosen entry are the others. -/
theorem cons_tail_perm {rest : List Nat} {c : Nat} (hc : c < rest.length) :
    (rest[c] :: (rest.swap 0 c).tail).Perm rest := by
  rw [← swap_zero_eq hc]
  exact List.swap_perm rest 0 c

/-! ## The shuffle of an array -/

/-- A swap at a place and behind it leaves what stands before. -/
theorem swap_eq_take_append (xs : List Nat) (i c : Nat) :
    xs.swap i (i + c) = xs.take i ++ (xs.drop i).swap 0 c := by
  induction xs generalizing i with
  | nil => simp
  | cons x xs ih =>
    cases i with
    | zero => simp
    | succ i =>
      rw [Nat.add_right_comm, List.swap_cons, ih]
      rfl

/-- A swap in an array is one in the list of its entries. -/
theorem toList_swap (xs : Array Nat) (i j : Nat) :
    (xs.swapIfInBounds i j).toList = xs.toList.swap i j := by
  unfold Array.swapIfInBounds
  by_cases hi : i < xs.size
  · by_cases hj : j < xs.size
    · rw [dif_pos hi, dif_pos hj, Array.toList_swap]
      exact (List.swap_eq_of_lt hi hj).symm
    · rw [dif_pos hi, dif_neg hj, List.swap_eq_of_ge_right (Nat.le_of_not_lt hj)]
  · rw [dif_neg hi, List.swap_eq_of_ge_left (Nat.le_of_not_lt hi)]

/-- From a place on, the array is shuffled as the list of what it holds from there on. -/
theorem shuffleFrom_toList (xs : Array Nat) (i : Nat) (choices : List Nat) :
    (shuffleFrom xs i choices).toList = xs.toList.take i ++ settle (xs.toList.drop i) choices := by
  induction choices generalizing xs i with
  | nil => exact (List.take_append_drop i xs.toList).symm
  | cons c cs ih =>
    show (shuffleFrom (xs.swapIfInBounds i (i + c)) (i + 1) cs).toList = _
    rw [ih, toList_swap, swap_eq_take_append, settle]
    generalize xs.toList = entries
    rcases Nat.lt_or_ge i entries.length with hi | hi
    · have hbefore : (entries.take i).length = i := List.length_take_of_le (Nat.le_of_lt hi)
      cases hswap : (entries.drop i).swap 0 c with
      | nil =>
        have hlength := congrArg List.length hswap
        rw [List.length_swap, List.length_drop, List.length_nil] at hlength
        omega
      | cons entry rest =>
        -- One more place is settled, and the rest goes on behind it.
        rw [List.take_append, List.drop_append, hbefore, Nat.add_sub_cancel_left,
          List.take_of_length_le (by omega), List.drop_eq_nil_of_le (by omega), List.nil_append,
          List.append_assoc]
        rfl
    · rw [List.drop_eq_nil_of_le hi, List.swap_nil, List.append_nil, List.take_take,
        List.drop_eq_nil_of_le (by rw [List.length_take]; omega), settle_nil,
        Nat.min_eq_right (Nat.le_succ i), List.append_nil]

/-! ## All choices -/

/-- The ranges of the choices for a list: all of it, then all but one, and so on. -/
theorem shuffleRanges_succ (length amount : Nat) :
    shuffleRanges length (amount + 1) = length :: shuffleRanges (length - 1) amount := by
  unfold shuffleRanges
  rw [List.range_succ_eq_map, List.map_cons, List.map_map, Nat.sub_zero]
  congr 2
  funext i
  show length - (i + 1) = length - 1 - i
  omega

/-- An arrangement that begins with the chosen entry goes on with an arrangement of the others. -/
theorem cons_mem_arrangements_iff {rest : List Nat} (hnodup : rest.Nodup) {c : Nat}
    (hc : c < rest.length) {amount : Nat} {entries : List Nat} :
    rest[c] :: entries ∈ arrangements rest (amount + 1) ↔
      entries ∈ arrangements (rest.swap 0 c).tail amount := by
  have hperm := cons_tail_perm hc
  have hchosen : rest[c] ∉ (rest.swap 0 c).tail :=
    (List.nodup_cons.mp (hperm.nodup_iff.mpr hnodup)).1
  have hmem : ∀ entry, entry ∈ rest ↔ entry = rest[c] ∨ entry ∈ (rest.swap 0 c).tail := by
    intro entry
    rw [← hperm.mem_iff, List.mem_cons]
  constructor
  · rintro ⟨hentries, hlength, hsub⟩
    obtain ⟨hfirst, hothers⟩ := List.nodup_cons.mp hentries
    refine ⟨hothers, Nat.succ.inj hlength, ?_⟩
    intro entry hentry
    have hne : entry ≠ rest[c] := fun h => hfirst (h ▸ hentry)
    exact ((hmem entry).mp (hsub entry (List.mem_cons_of_mem _ hentry))).resolve_left hne
  · rintro ⟨hentries, hlength, hsub⟩
    refine ⟨List.nodup_cons.mpr ⟨fun h => hchosen (hsub _ h), hentries⟩, by
      rw [List.length_cons, hlength], ?_⟩
    intro entry hentry
    rw [hmem]
    exact (List.mem_cons.mp hentry).imp_right (hsub entry)

/-- The vectors of choices for the entries of a list lead to their arrangements, to each of them
exactly one. -/
theorem settle_bijOn {rest : List Nat} (hnodup : rest.Nodup) {amount : Nat}
    (hamount : amount ≤ rest.length) :
    Set.BijOn (fun choices => (settle rest choices).take amount)
      (choiceVectors (shuffleRanges rest.length amount)) (arrangements rest amount) := by
  induction amount generalizing rest with
  | zero =>
    have hranges : shuffleRanges rest.length 0 = [] := rfl
    rw [arrangements_zero, hranges, choiceVectors_nil]
    exact Set.bijOn_singleton.mpr rfl
  | succ amount ih =>
    have hstep : ∀ {c : Nat} (hc : c < rest.length) (cs : List Nat),
        (settle rest (c :: cs)).take (amount + 1) =
          rest[c] :: (settle (rest.swap 0 c).tail cs).take amount := by
      intro c hc cs
      rw [settle_cons hc, List.take_succ_cons]
    -- Behind every choice, the rest of the vector arranges what is left.
    have hrest : ∀ {c : Nat}, c < rest.length →
        Set.BijOn (fun choices => (settle (rest.swap 0 c).tail choices).take amount)
          (choiceVectors (shuffleRanges (rest.length - 1) amount))
          (arrangements (rest.swap 0 c).tail amount) := by
      intro c hc
      have hlength : (rest.swap 0 c).tail.length = rest.length - 1 := by
        rw [List.length_tail, List.length_swap]
      have hothers := (List.nodup_cons.mp ((cons_tail_perm hc).nodup_iff.mpr hnodup)).2
      have hbij := ih hothers (by omega)
      rwa [hlength] at hbij
    rw [shuffleRanges_succ]
    refine ⟨?_, ?_, ?_⟩
    · intro choices hchoices
      obtain ⟨c, cs, hc, hcs, rfl⟩ := mem_choiceVectors_cons.mp hchoices
      show (settle rest (c :: cs)).take (amount + 1) ∈ _
      rw [hstep hc]
      exact (cons_mem_arrangements_iff hnodup hc).mpr ((hrest hc).mapsTo hcs)
    · intro choices hchoices choices' hchoices' heq
      obtain ⟨c, cs, hc, hcs, rfl⟩ := mem_choiceVectors_cons.mp hchoices
      obtain ⟨c', cs', hc', hcs', rfl⟩ := mem_choiceVectors_cons.mp hchoices'
      simp only [hstep hc, hstep hc', List.cons.injEq] at heq
      -- The first entry tells the choice.
      obtain rfl : c = c' := hnodup.getElem_inj_iff.mp heq.1
      rw [(hrest hc).injOn hcs hcs' heq.2]
    · rintro entries hentries
      cases entries with
      | nil => exact absurd hentries.2.1 (Nat.succ_ne_zero amount).symm
      | cons entry others =>
        obtain ⟨c, hc, rfl⟩ := List.getElem_of_mem (hentries.2.2 entry List.mem_cons_self)
        obtain ⟨cs, hcs, hothers⟩ :=
          (hrest hc).surjOn ((cons_mem_arrangements_iff hnodup hc).mp hentries)
        refine ⟨c :: cs, mem_choiceVectors_cons.mpr ⟨c, cs, hc, hcs, rfl⟩, ?_⟩
        show (settle rest (c :: cs)).take (amount + 1) = _
        rw [hstep hc, ← hothers]

/-- The shuffle leads from the vectors of choices to the samples, to each of them from exactly
one. -/
theorem shuffle_bijOn {length amount : Nat} (h : amount ≤ length) :
    Set.BijOn (shuffle length amount) (choiceVectors (shuffleRanges length amount))
      (samples length amount) := by
  have hshuffle : shuffle length amount =
      fun choices => (settle (List.range length) choices).take amount := by
    funext choices
    rw [shuffle, Array.toList_extract, shuffleFrom_toList, List.extract_eq_take_drop,
      Array.toList_range]
    rfl
  have hle : amount ≤ (List.range length).length := by rwa [List.length_range]
  have hbij := settle_bijOn List.nodup_range hle
  rw [List.length_range] at hbij
  rwa [hshuffle, samples_eq]

end Shortlist.Random
