import Mathlib.Data.Finset.Card
import Shortlist.Proofs.Pool.Gradual

/-!
# The same listing again and again

A merge can drop ids that its own listing names, so merging a listing twice need not be the same as
merging it once: the second merge brings back what the first has dropped, and drops others for it.
If the pool has room for the listing this comes to an end. The entries that were there before the
first merge stand in front, so each merge that drops anything drops some of them, and they are no
more than the bound (`Consistent.merge_lag`, `Consistent.repeated_lag`). A pool that holds the whole
listing is left as it is (`Consistent.merge_of_held`). If the listing has more ids than the pool has
room for, every merge finds ids that are not held (`card_le_size_add_newcomers`), and it never ends.

`repeated_settles_or_churns` is the main statement.
-/

namespace Shortlist.Pool

/-- The pool after merging a listing so many times. -/
def repeated (p : Pool) (fresh : List ProductId) (bound : Nat) : Nat → Pool
  | 0 => p
  | n + 1 => ((p.repeated fresh bound n).merge fresh bound).1

/-- Merging a listing keeps a pool consistent, however often it is done. -/
theorem Consistent.repeated {p : Pool} (hp : p.Consistent) (fresh : List ProductId)
    (bound n : Nat) : (p.repeated fresh bound n).Consistent := by
  induction n with
  | zero => exact hp
  | succ n ih => exact ih.merge fresh bound

/-- A pool within its bound stays within it. -/
theorem Consistent.size_repeated_le {p : Pool} (hp : p.Consistent) (fresh : List ProductId)
    {bound : Nat} (hsize : p.size ≤ bound) (n : Nat) : (p.repeated fresh bound n).size ≤ bound := by
  induction n with
  | zero => exact hsize
  | succ n ih =>
    have hmerge : (p.repeated fresh bound (n + 1)).size = min bound _ :=
      (hp.repeated fresh bound n).merge_size fresh bound
    omega

/-! ## A pool that holds the listing -/

/-- The pool holds every id of a listing. -/
def Holds (p : Pool) (fresh : List ProductId) : Prop := ∀ id ∈ fresh, id ∈ p.entries

/-- What the entries say about a listing, the set says too. -/
theorem Consistent.holds_iff {p : Pool} (hp : p.Consistent) {fresh : List ProductId} :
    p.Holds fresh ↔ ∀ id ∈ fresh, p.contains id = true := by
  unfold Holds contains
  simp only [Std.ExtTreeSet.contains_iff_mem, hp.mem_members]

/-- A listing without newcomers is held, and the other way round. -/
theorem holds_iff_newcomers_eq_nil {p : Pool} {fresh : List ProductId} :
    p.Holds fresh ↔ newcomers p.entries fresh = [] := by
  rw [List.eq_nil_iff_forall_not_mem]
  simp only [mem_newcomers, not_and, not_not]
  rfl

/-- A pool that holds the listing and fits its bound is left as it is. -/
theorem Consistent.merge_of_held {p : Pool} (hp : p.Consistent) {fresh : List ProductId}
    {bound : Nat} (hsize : p.size ≤ bound) (hheld : p.Holds fresh) :
    p.merge fresh bound = (p, ⟨0, 0⟩) := by
  have hnew : newcomers p.entries fresh = [] := holds_iff_newcomers_eq_nil.mp hheld
  have hentries : (p.merge fresh bound).1.entries = p.entries := by
    rw [hp.merge_entries, hnew, List.append_nil, List.rtake]
    have hexcess : p.entries.length - bound = 0 := Nat.sub_eq_zero_of_le hsize
    rw [hexcess, List.drop_zero]
  have hadded : (p.merge fresh bound).2.added = 0 := by
    rw [hp.merge_added, hnew]
    rfl
  have hevicted : (p.merge fresh bound).2.evicted = 0 := by
    rw [hp.merge_evicted, hnew, List.length_nil]
    omega
  have hpool : (p.merge fresh bound).1 = p := (hp.merge fresh bound).eq_of_entries hp hentries
  exact Prod.ext hpool (Merged.ext hadded hevicted)

/-- Once the pool holds the listing, it stays as it is. -/
theorem Consistent.repeated_of_held {p : Pool} (hp : p.Consistent) {fresh : List ProductId}
    {bound m : Nat} (hsize : p.size ≤ bound) (hheld : (p.repeated fresh bound m).Holds fresh)
    {n : Nat} (hmn : m ≤ n) : p.repeated fresh bound n = p.repeated fresh bound m := by
  induction n, hmn using Nat.le_induction with
  | base => rfl
  | succ n hmn ih =>
    have hstep : p.repeated fresh bound (n + 1) =
        ((p.repeated fresh bound n).merge fresh bound).1 := rfl
    have hmerge := (hp.repeated fresh bound m).merge_of_held
      (hp.size_repeated_le fresh hsize m) hheld
    rw [hstep, ih, hmerge]

/-! ## A listing that fits -/

/-- A pool that is full of ids of a listing, and of no others, holds all of them if they are no more
than it has room for. -/
theorem Consistent.holds_of_full {p : Pool} (hp : p.Consistent) {fresh : List ProductId}
    {bound : Nat} (hfits : fresh.toFinset.card ≤ bound) (hfull : p.size = bound)
    (hsub : p.entries ⊆ fresh) : p.Holds fresh := by
  have hcard : p.entries.toFinset.card = bound := by
    rw [List.toFinset_card_of_nodup hp.nodup]
    exact hfull
  have heq : p.entries.toFinset = fresh.toFinset := by
    apply Finset.eq_of_subset_of_card_le
    · intro id hid
      rw [List.mem_toFinset] at hid ⊢
      exact hsub hid
    · omega
  intro id hid
  rw [← List.mem_toFinset, heq, List.mem_toFinset]
  exact hid

/-- So many entries at most stand before those that come from the listing. -/
def Lag (p : Pool) (fresh : List ProductId) (lag : Nat) : Prop :=
  ∃ before since, p.entries = before ++ since ∧ since ⊆ fresh ∧ before.length ≤ lag

/-- A merge of a listing that fits leaves a pool that holds it; or else a full pool, in which fewer
entries stand before those of the listing than did. -/
theorem Consistent.merge_lag {p : Pool} (hp : p.Consistent) {fresh : List ProductId} {bound : Nat}
    (hfits : fresh.toFinset.card ≤ bound) {lag : Nat} (hlag : p.Lag fresh lag) :
    (p.merge fresh bound).1.Holds fresh ∨
      (p.merge fresh bound).1.size = bound ∧ 0 < lag ∧
        (p.merge fresh bound).1.Lag fresh (lag - 1) := by
  obtain ⟨before, since, hentries, hsince, hbefore⟩ := hlag
  obtain ⟨new, hnew⟩ : ∃ new, new = newcomers p.entries fresh := ⟨_, rfl⟩
  have hlater : since ++ new ⊆ fresh := by
    apply List.append_subset.mpr
    refine ⟨hsince, ?_⟩
    intro id hid
    rw [hnew, mem_newcomers] at hid
    exact hid.1
  have hall : p.entries ++ new = before ++ (since ++ new) := by
    rw [← List.append_assoc, ← hentries]
  have hafter : (p.merge fresh bound).1.entries =
      (before ++ (since ++ new)).drop (p.size + new.length - bound) := by
    rw [hp.merge_entries, ← hnew, List.rtake, List.length_append, hall]
    rfl
  have hsize := hp.merge_size fresh bound
  rw [← hnew] at hsize
  by_cases hexcess : p.size + new.length ≤ bound
  · -- Nothing is dropped, so all that is new is there beside all that was.
    left
    intro id hid
    rw [hafter, Nat.sub_eq_zero_of_le hexcess, List.drop_zero, ← hall, List.mem_append, hnew,
      mem_newcomers]
    exact or_iff_not_imp_left.mpr fun hout => ⟨hid, hout⟩
  · have hfull : (p.merge fresh bound).1.size = bound := by omega
    by_cases hleft : p.size + new.length - bound ≤ before.length
    · -- What is dropped stood before the ids of the listing.
      right
      refine ⟨hfull, by omega, before.drop (p.size + new.length - bound), since ++ new, ?_, hlater,
        ?_⟩
      · rw [hafter, List.drop_append_of_le_length hleft]
      · rw [List.length_drop]
        omega
    · -- Only ids of the listing are left, as many as the pool has room for.
      left
      apply (hp.merge fresh bound).holds_of_full hfits hfull
      rw [hafter, List.drop_append, List.drop_eq_nil_of_le (by omega), List.nil_append]
      exact fun id hid => hlater (List.mem_of_mem_drop hid)

/-- As long as the pool does not hold the listing, every merge moves it on. -/
theorem Consistent.repeated_lag {p : Pool} (hp : p.Consistent) {fresh : List ProductId}
    {bound : Nat} (hfits : fresh.toFinset.card ≤ bound) (hsize : p.size ≤ bound) (n : Nat) :
    (p.repeated fresh bound n).Holds fresh ∨
      n ≤ bound ∧ (p.repeated fresh bound n).Lag fresh (bound - n) ∧
        (0 < n → (p.repeated fresh bound n).size = bound) := by
  induction n with
  | zero =>
    right
    refine ⟨Nat.zero_le bound, ⟨p.entries, [], ?_, List.nil_subset _, hsize⟩, ?_⟩
    · rw [List.append_nil]
      rfl
    · intro hpos
      omega
  | succ n ih =>
    rcases ih with hheld | ⟨hn, hlag, -⟩
    · left
      rwa [hp.repeated_of_held hsize hheld (Nat.le_succ n)]
    · rcases (hp.repeated fresh bound n).merge_lag hfits hlag with hheld | ⟨hfull, hpos, hlag⟩
      · exact Or.inl hheld
      · right
        refine ⟨by omega, ?_, fun _ => hfull⟩
        rw [Nat.sub_succ]
        exact hlag

/-- After as many merges as the pool has room for ids, it holds the listing. -/
theorem Consistent.repeated_holds {p : Pool} (hp : p.Consistent) {fresh : List ProductId}
    {bound : Nat} (hfits : fresh.toFinset.card ≤ bound) (hsize : p.size ≤ bound) :
    (p.repeated fresh bound bound).Holds fresh := by
  rcases hp.repeated_lag hfits hsize bound with hheld | ⟨-, hlag, hfull⟩
  · exact hheld
  · -- Nothing is left of what was there before.
    obtain ⟨before, since, hentries, hsince, hbefore⟩ := hlag
    have hnone : before = [] := List.eq_nil_of_length_eq_zero (by omega)
    have hsub : (p.repeated fresh bound bound).entries ⊆ fresh := by
      rw [hentries, hnone, List.nil_append]
      exact hsince
    have hsize' : (p.repeated fresh bound bound).size = bound := by
      rcases Nat.eq_zero_or_pos bound with hzero | hpos
      · have hle := hp.size_repeated_le fresh hsize bound
        omega
      · exact hfull hpos
    exact (hp.repeated fresh bound bound).holds_of_full hfits hsize' hsub

/-- It can take that many: here two merges have turned the pool around but for one id. -/
example :
    let p := (empty.merge [⟨"a"⟩, ⟨"b"⟩, ⟨"x"⟩] 3).1
    (p.repeated [⟨"a"⟩, ⟨"b"⟩, ⟨"c"⟩] 3 2).entries = [⟨"x"⟩, ⟨"c"⟩, ⟨"a"⟩] ∧
      (p.repeated [⟨"a"⟩, ⟨"b"⟩, ⟨"c"⟩] 3 3).entries = [⟨"c"⟩, ⟨"a"⟩, ⟨"b"⟩] := by
  decide +kernel

/-! ## A listing that does not fit -/

/-- Every id of a listing is held or new. -/
theorem card_le_size_add_newcomers (p : Pool) (fresh : List ProductId) :
    fresh.toFinset.card ≤ p.size + (newcomers p.entries fresh).length := by
  have hsub : fresh.toFinset ⊆ (p.entries ++ newcomers p.entries fresh).toFinset := by
    intro id hid
    rw [List.mem_toFinset] at hid
    rw [List.mem_toFinset, List.mem_append, mem_newcomers]
    exact or_iff_not_imp_left.mpr fun hout => ⟨hid, hout⟩
  calc fresh.toFinset.card
      ≤ (p.entries ++ newcomers p.entries fresh).toFinset.card := Finset.card_le_card hsub
    _ ≤ (p.entries ++ newcomers p.entries fresh).length := List.toFinset_card_le _
    _ = p.size + (newcomers p.entries fresh).length := List.length_append

/-- A merge of a listing that does not fit appends and drops at least as many ids as are too
many. -/
theorem Consistent.merge_of_too_many {p : Pool} (hp : p.Consistent) (fresh : List ProductId)
    {bound : Nat} (hsize : p.size ≤ bound) :
    fresh.toFinset.card - bound ≤ (p.merge fresh bound).2.added ∧
      fresh.toFinset.card - bound ≤ (p.merge fresh bound).2.evicted := by
  have hcard := card_le_size_add_newcomers p fresh
  rw [hp.merge_added, hp.merge_evicted]
  constructor <;> omega

/-- After a merge of a listing that does not fit, the pool is full. -/
theorem Consistent.size_merge_of_too_many {p : Pool} (hp : p.Consistent) {fresh : List ProductId}
    {bound : Nat} (hmany : bound < fresh.toFinset.card) :
    (p.merge fresh bound).1.size = bound := by
  have hcard := card_le_size_add_newcomers p fresh
  rw [hp.merge_size]
  omega

/-- A full pool drops as many ids as it appends. -/
theorem Consistent.added_eq_evicted_of_full {p : Pool} (hp : p.Consistent) (fresh : List ProductId)
    {bound : Nat} (hfull : p.size = bound) :
    (p.merge fresh bound).2.added = (p.merge fresh bound).2.evicted := by
  rw [hp.merge_added, hp.merge_evicted, hfull, Nat.add_sub_cancel_left]

/-- The same listing again and again, merged into a pool that fits its bound. If the listing has no
more distinct ids than the bound, then after at most `bound` merges the pool holds all of them, and
from when it does, every further merge appends nothing, drops nothing and leaves the pool as it is.
If it has more, then every merge appends and drops at least as many ids as are too many, so that it
counts as truncated, and every merge but the first drops as many as it appends. -/
theorem repeated_settles_or_churns (merges : List (List ProductId × Nat))
    (fresh : List ProductId) (bound : Nat) (hsize : (afterMerges merges).size ≤ bound) :
    let pool := (afterMerges merges).repeated fresh bound
    let merged := fun n => ((pool n).merge fresh bound).2
    let distinct := fresh.toFinset.card
    (distinct ≤ bound →
      (∃ m ≤ bound, ∀ id ∈ fresh, (pool m).contains id = true) ∧
        ∀ m, (∀ id ∈ fresh, (pool m).contains id = true) →
          ∀ n, m ≤ n → (pool n).merge fresh bound = (pool m, ⟨0, 0⟩)) ∧
      (bound < distinct →
        ∀ n, distinct - bound ≤ (merged n).added ∧ distinct - bound ≤ (merged n).evicted ∧
          (merged n).truncated = true ∧ (1 ≤ n → (merged n).added = (merged n).evicted)) := by
  intro pool merged distinct
  have hp : (afterMerges merges).Consistent := consistent_afterMerges merges
  have hpool : ∀ n, (pool n).Consistent := hp.repeated fresh bound
  have hbounded : ∀ n, (pool n).size ≤ bound := hp.size_repeated_le fresh hsize
  constructor
  · intro hfits
    constructor
    · refine ⟨bound, Nat.le_refl bound, ?_⟩
      exact (hpool bound).holds_iff.mp (hp.repeated_holds hfits hsize)
    · intro m hm n hmn
      have hheld : (pool m).Holds fresh := (hpool m).holds_iff.mpr hm
      have hstays : pool n = pool m := hp.repeated_of_held hsize hheld hmn
      rw [hstays]
      exact (hpool m).merge_of_held (hbounded m) hheld
  · intro hmany n
    obtain ⟨hadded, hevicted⟩ := (hpool n).merge_of_too_many fresh (hbounded n)
    refine ⟨hadded, hevicted, ?_, ?_⟩
    · rw [Merged.truncated, decide_eq_true_iff]
      exact Nat.lt_of_lt_of_le (Nat.sub_pos_of_lt hmany) hevicted
    · intro hn
      obtain ⟨earlier, rfl⟩ := Nat.exists_eq_add_of_le' hn
      have hfull : (pool (earlier + 1)).size = bound := (hpool earlier).size_merge_of_too_many hmany
      exact (hpool (earlier + 1)).added_eq_evicted_of_full fresh hfull

/-- A full pool with a stranger in it, under a listing for which it has room and under one that has
an id too many. -/
theorem repeated_settles_or_churns_of_stranger :
    let p := afterMerges [([⟨"a"⟩, ⟨"b"⟩, ⟨"x"⟩], 3)]
    let short : List ProductId := [⟨"a"⟩, ⟨"b"⟩, ⟨"c"⟩, ⟨"b"⟩]
    let long : List ProductId := [⟨"a"⟩, ⟨"b"⟩, ⟨"c"⟩, ⟨"d"⟩]
    p.size ≤ 3 ∧ short.toFinset.card ≤ 3 ∧ 3 < long.toFinset.card ∧
      (∃ m ≤ 3, ∀ id ∈ short, (p.repeated short 3 m).contains id = true) ∧
      ∀ n, 1 ≤ ((p.repeated long 3 n).merge long 3).2.evicted := by
  intro p short long
  have hsize : p.size ≤ 3 := by decide +kernel
  have hshort : short.toFinset.card = 3 := by decide +kernel
  have hlong : long.toFinset.card = 4 := by decide +kernel
  have hfits : short.toFinset.card ≤ 3 := Nat.le_of_eq hshort
  have hmany : 3 < long.toFinset.card := Nat.lt_of_lt_of_eq (by decide) hlong.symm
  obtain ⟨hsettles, -⟩ := (repeated_settles_or_churns _ short 3 hsize).1 hfits
  refine ⟨hsize, hfits, hmany, hsettles, ?_⟩
  intro n
  obtain ⟨-, hevicted, -⟩ := (repeated_settles_or_churns _ long 3 hsize).2 hmany n
  rw [hlong] at hevicted
  exact hevicted

end Shortlist.Pool
