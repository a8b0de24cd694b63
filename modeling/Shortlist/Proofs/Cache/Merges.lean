import Shortlist.Proofs.Cache.Refreshes
import Shortlist.Proofs.Cache.Signals

/-!
# What the merges of a run count

Truncations and evictions are counted when a listing is merged, and at no other time. So the
counters of a run are sums over what the merges of its successful refreshes have changed
(`run_merged`), and the ids that these have appended and not dropped are those that are left
(`sum_added_mergeOutcomes`).
-/

namespace Shortlist

/-- What each of several listings changes when they are merged one after the other. -/
def mergeOutcomes (bound : Nat) (p : Pool) : List (List ProductId) → List Merged
  | [] => []
  | ids :: later => (p.merge ids bound).2 :: mergeOutcomes bound (p.merge ids bound).1 later

/-- One more listing changes the pool that the others have left. -/
theorem mergeOutcomes_concat (bound : Nat) (listings : List (List ProductId))
    (ids : List ProductId) :
    mergeOutcomes bound .empty (listings ++ [ids]) =
      mergeOutcomes bound .empty listings ++
        [((Desk.mergeAll bound listings).merge ids bound).2] := by
  -- The induction is on the listings, and so over the pools that they leave.
  have hfrom : ∀ p : Pool, mergeOutcomes bound p (listings ++ [ids]) =
      mergeOutcomes bound p listings ++
        [((listings.foldl (fun p ids => (p.merge ids bound).1) p).merge ids bound).2] := by
    induction listings with
    | nil => exact fun p => rfl
    | cons first later ih =>
      intro p
      rw [List.cons_append, mergeOutcomes, ih, mergeOutcomes]
      rfl
  rw [hfrom, Desk.mergeAll, Pool.afterMerges, List.foldl_map]

/-- Of the ids that merges have appended, those that are not in the pool have been dropped. -/
theorem sum_added_mergeOutcomes (bound : Nat) (listings : List (List ProductId)) :
    ((mergeOutcomes bound .empty listings).map (·.added)).sum =
      ((mergeOutcomes bound .empty listings).map (·.evicted)).sum +
        (Desk.mergeAll bound listings).size := by
  induction listings using List.reverseRecOn with
  | nil => rfl
  | append_singleton listings ids ih =>
    have hconsistent := Desk.consistent_mergeAll bound listings
    have hadded := hconsistent.merge_added ids bound
    have hevicted := hconsistent.merge_evicted ids bound
    have hsize := hconsistent.merge_size ids bound
    rw [mergeOutcomes_concat, Desk.mergeAll_concat, List.map_append, List.sum_append,
      List.map_append, List.sum_append, List.map_singleton, List.sum_singleton,
      List.map_singleton, List.sum_singleton]
    omega

/-- Merges count as many truncations as have dropped ids. -/
theorem sum_counted_truncations (outcomes : List Merged) :
    (outcomes.map (·.counted .cacheTruncations)).sum = outcomes.countP (·.truncated) := by
  induction outcomes with
  | nil => rfl
  | cons merged later ih =>
    rw [List.map_cons, List.sum_cons, ih, List.countP_cons]
    cases h : merged.truncated <;> simp [Merged.counted, h, Nat.add_comm]

/-- And as many evictions as they have dropped ids. -/
theorem sum_counted_evictions (outcomes : List Merged) :
    (outcomes.map (·.counted .cacheEvictions)).sum = (outcomes.map (·.evicted)).sum := by
  simp [Merged.counted]

namespace Desk

variable {σ : Type} [RandomSource σ] {config : CacheConfig} {source : σ} {catalog : String}
  {events : List Event} {d d' : Desk σ} {e : Event}

/-- A step counts what the merge of its refresh has done, if it completes one. -/
theorem Step.merged_eq (hs : Step d e d') (h : Ledger events d) {s : Series}
    (hseries : s = .cacheTruncations ∨ s = .cacheEvictions) :
    ((d.logged e).map (·.counted s)).sum =
      ((refreshed? (modes events) e).toList.map fun ids =>
        (d.cache.pool.merge ids d.cache.config.maxEntries).2.counted s).sum := by
  -- Neither is a series of calls or of grants.
  have hcall : ∀ listing,
      (ProductCache.listingSignal d.catalog listing).counted s = 0 := by
    intro listing
    rw [counted_listingSignal, if_neg]
    rcases hseries with rfl | rfl <;> simp
  cases hs with
  | queue | call | leave | abandon | hangUp => rfl
  | hit | miss =>
    rw [sum_counted_grant, if_neg]
    · rfl
    · rcases hseries with rfl | rfl <;> cases d.cache.refreshes.1 <;> simp
  | settle listing calls =>
    have hs' : s ≠ .cacheSize := by rcases hseries with rfl | rfl <;> simp
    rw [logged_of_refresh calls, ProductCache.sum_counted_settle _ _ _ hs', hcall]
    cases listing with
    | error fault => rfl
    | ok ids =>
      rw [h.refreshed?_of_refresh calls, Option.toList_some, List.map_singleton,
        List.sum_singleton, Nat.zero_add]
  | pass listing other calls =>
    rw [logged_of_other other, List.map_singleton, List.sum_singleton, hcall,
      h.refreshed?_of_live calls]
    rfl

/-- Truncations and evictions are those of the merges of the successful refreshes. -/
theorem run_merged (h : (new config source catalog).run events = some d) {s : Series}
    (hseries : s = .cacheTruncations ∨ s = .cacheEvictions) :
    (Metrics.ofSignals d.signals).value s =
      ((mergeOutcomes config.maxEntries .empty (refreshes events)).map (·.counted s)).sum := by
  refine run_induction (P := fun events d => (Metrics.ofSignals d.signals).value s =
    ((mergeOutcomes config.maxEntries .empty (refreshes events)).map (·.counted s)).sum) ?_ ?_ h
  · rcases hseries with rfl | rfl <;> rfl
  · intro events d e d' hrun ih hs
    have hledger := run_ledger hrun
    have hs' : s ≠ .cacheSize := by rcases hseries with rfl | rfl <;> simp
    -- The pool that the step merges into is what the merges before it have left.
    rw [hs.value_eq hs', hs.merged_eq hledger hseries, ih, hledger.refreshes_concat,
      (run_cache hrun).1, run_pool hrun]
    cases refreshed? (modes events) e with
    | none => rw [Option.toList_none, List.append_nil]; rfl
    | some ids =>
      rw [Option.toList_some, mergeOutcomes_concat, List.map_append, List.sum_append]
      rfl

/-- In particular the evictions are those of the merges. -/
theorem run_evicted (h : (new config source catalog).run events = some d) :
    (Metrics.ofSignals d.signals).value .cacheEvictions =
      ((mergeOutcomes config.maxEntries .empty (refreshes events)).map (·.evicted)).sum := by
  rw [run_merged h (Or.inr rfl), sum_counted_evictions]

end Desk

end Shortlist
