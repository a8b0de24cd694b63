import Shortlist.Proofs.Cache.Invariant

/-!
# The refreshes of a run

`refreshes` lists what the successful refreshes of a run brought, in the order in which they were
completed: the listings among the answers to enabled requests. Answers to disabled requests do not
count, and neither do failures. `run_pool` says that the pool of a desk is what these listings,
merged one after the other, make of the empty pool, so that no completed refresh is lost and nothing
else reaches the pool.
-/

namespace Shortlist.Desk

/-- The listing that an event brings to a refresh, given the modes of the requests. -/
def refreshed? (modes : List CacheMode) : Event → Option (List ProductId)
  | .answer ticket (.ok ids) => if modes[ticket]? = some .enabled then some ids else none
  | _ => none

/-- The listings of the successful refreshes, in the order in which they were completed. -/
def refreshes (events : List Event) : List (List ProductId) :=
  events.filterMap (refreshed? (modes events))

/-- A listing of a successful refresh was the answer to an enabled request. -/
theorem mem_refreshes {events : List Event} {ids : List ProductId} :
    ids ∈ refreshes events ↔
      ∃ t, .answer t (.ok ids) ∈ events ∧ (modes events)[t]? = some .enabled := by
  rw [refreshes, List.mem_filterMap]
  constructor
  · rintro ⟨e, he, hids⟩
    rcases e with mode | t | ⟨t, fault | ids'⟩ | t <;> simp only [refreshed?] at hids <;>
      try cases hids
    split at hids
    · rename_i hmode
      cases hids
      exact ⟨t, he, hmode⟩
    · cases hids
  · rintro ⟨t, he, hmode⟩
    exact ⟨_, he, by rw [refreshed?, if_pos hmode]⟩

/-- A listing that comes back to a refresh is what it brings. -/
theorem Ledger.refreshed?_of_refresh {σ : Type} {events : List Event} {d : Desk σ}
    (h : Ledger events d) {t : Ticket} (calls : (t, .enabled) ∈ d.calling)
    (ids : List ProductId) : refreshed? (modes events) (.answer t (.ok ids)) = some ids := by
  rw [refreshed?, if_pos (h.calling _ _ calls).1]

/-- What comes back to a disabled request is brought to no refresh. -/
theorem Ledger.refreshed?_of_live {σ : Type} {events : List Event} {d : Desk σ}
    (h : Ledger events d) {t : Ticket} (calls : (t, .disabled) ∈ d.calling) (listing : Listing) :
    refreshed? (modes events) (.answer t listing) = none := by
  cases listing with
  | error fault => rfl
  | ok ids => rw [refreshed?, (h.calling _ _ calls).1, if_neg (by simp)]

/-- One more event adds what it brings to a refresh: an arrival does not change which answers
count, since every request that was answered had arrived before. -/
theorem Ledger.refreshes_concat {σ : Type} {events : List Event} {d : Desk σ}
    (h : Ledger events d) (e : Event) :
    refreshes (events ++ [e]) = refreshes events ++ (refreshed? (modes events) e).toList := by
  -- Only an arrival adds a mode, and an arrival brings nothing.
  have hlast : refreshed? (modes (events ++ [e])) e = refreshed? (modes events) e := by
    rcases e with mode | t | ⟨t, listing⟩ | t
    · rfl
    · rfl
    · have habout : Event.ticket? (.answer t listing) = some t := rfl
      rw [modes_concat_of_ticket habout]
    · rfl
  have hearlier : events.filterMap (refreshed? (modes (events ++ [e]))) = refreshes events := by
    refine List.filterMap_congr fun e' he' => ?_
    rcases e' with mode | t | ⟨t, fault | ids⟩ | t
    · rfl
    · rfl
    · rfl
    · -- The answer is among the earlier events, so its request has its mode already.
      have hlt : t < (modes events).length := by
        rw [← h.arrived]
        exact h.lt_arrived_of_mem he' rfl
      rw [refreshed?, refreshed?, getElem?_modes_concat events e hlt]
    · rfl
  rw [refreshes, List.filterMap_append, hearlier, List.filterMap_cons, List.filterMap_nil, hlast]
  cases refreshed? (modes events) e <;> rfl

/-- The pool that listings make when they are merged one after the other under one bound. -/
def mergeAll (bound : Nat) (listings : List (List ProductId)) : Pool :=
  .afterMerges (listings.map (·, bound))

theorem mergeAll_concat (bound : Nat) (listings : List (List ProductId)) (ids : List ProductId) :
    mergeAll bound (listings ++ [ids]) = ((mergeAll bound listings).merge ids bound).1 := by
  rw [mergeAll, List.map_append]
  exact Pool.afterMerges_concat _ ids bound

theorem consistent_mergeAll (bound : Nat) (listings : List (List ProductId)) :
    (mergeAll bound listings).Consistent :=
  Pool.consistent_afterMerges _

variable {σ : Type} [RandomSource σ]

/-- What a step adds to the refreshes it also merges into the pool, and nothing else. -/
theorem Step.pool_eq {events : List Event} {d d' : Desk σ} {e : Event} (hs : Step d e d')
    (h : Ledger events d) :
    d'.cache.pool = (refreshed? (modes events) e).toList.foldl
      (fun pool ids => (pool.merge ids d.cache.config.maxEntries).1) d.cache.pool := by
  cases hs with
  | hit waits free enters =>
    have hpool := d.cache.enter_frame.2.1
    rw [enters] at hpool
    exact hpool
  | miss waits free enters =>
    have hpool := d.cache.enter_frame.2.1
    rw [enters] at hpool
    exact hpool
  | settle listing calls =>
    cases listing with
    | error fault => rfl
    | ok ids =>
      rw [h.refreshed?_of_refresh calls]
      rfl
  | pass listing other calls =>
    rw [h.refreshed?_of_live calls]
    rfl
  | _ => rfl

/-- The pool is what the listings of the successful refreshes make of the empty pool, merged in the
order in which the refreshes were completed. -/
theorem run_pool {config : CacheConfig} {source : σ} {catalog : String} {events : List Event}
    {d : Desk σ} (h : (new config source catalog).run events = some d) :
    d.cache.pool = mergeAll config.maxEntries (refreshes events) := by
  refine run_induction (P := fun events d =>
    d.cache.pool = mergeAll config.maxEntries (refreshes events)) rfl ?_ h
  intro events d e d' hrun hpool hs
  have hledger := run_ledger hrun
  rw [hs.pool_eq hledger, hledger.refreshes_concat, hpool, (run_cache hrun).1]
  cases refreshed? (modes events) e with
  | none => rw [Option.toList_none, List.append_nil, List.foldl_nil]
  | some ids => rw [Option.toList_some, mergeAll_concat, List.foldl_cons, List.foldl_nil]

end Shortlist.Desk
