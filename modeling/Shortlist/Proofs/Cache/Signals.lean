import Shortlist.Proofs.Cache.Step
import Shortlist.Proofs.Cache.Turn
import Shortlist.Proofs.Telemetry.Counters

/-!
# What the desk logs

Each event logs its own signals, about one request (`Step.log_eq`): an arrival that the pool is
asked for, a grant the hit or the miss, an answer of the catalog how it came back and, if it is
taken in, what the merge did. So a counter moves with an event by what these signals count
(`Step.value_eq`); `sum_counted_settle` says what that is for an answer that is taken in, and what
it is for all others follows from the definitions.
-/

namespace Shortlist

/-- A call that came back counts as one, good or bad, and so does its duration. -/
theorem counted_listingSignal (catalog : String) (listing : Listing) (s : Series) :
    (ProductCache.listingSignal catalog listing).counted s =
      if s = .catalogRequests listing.isOk ∨ s = .catalogDuration then 1 else 0 := by
  cases listing with
  | error fault => exact Signal.counted_listingFailed catalog fault s
  | ok ids => exact Signal.counted_listed catalog ids.length s

/-- What a merge counts: whether it has dropped ids, and how many. -/
def Merged.counted (merged : Merged) (s : Series) : Nat :=
  (if s = .cacheTruncations then merged.truncated.toNat else 0) +
    if s = .cacheEvictions then merged.evicted else 0

namespace ProductCache

variable {σ : Type}

/-- A listing that is taken in is told first, then what its merge has dropped, and last the size. -/
theorem settle_ok_signals (c : ProductCache σ) (catalog : String) (ids : List ProductId) :
    (c.settle catalog (.ok ids)).2.2 =
      (listingSignal catalog (.ok ids) ::
        (if (c.pool.merge ids c.config.maxEntries).2.truncated then
          [.evicted ((c.pool.merge ids c.config.maxEntries).1.size +
            (c.pool.merge ids c.config.maxEntries).2.evicted) c.config.maxEntries
            (c.pool.merge ids c.config.maxEntries).2.evicted]
        else [])) ++ [.sized (c.pool.merge ids c.config.maxEntries).1.size] := rfl

/-- What taking in an answer counts: that it came back, and what its merge has dropped. -/
theorem sum_counted_settle (c : ProductCache σ) (catalog : String) (listing : Listing) {s : Series}
    (hs : s ≠ .cacheSize) :
    ((c.settle catalog listing).2.2.map (·.counted s)).sum =
      (listingSignal catalog listing).counted s +
        match listing with
        | .error _ => 0
        | .ok ids => (c.pool.merge ids c.config.maxEntries).2.counted s := by
  cases listing with
  | error fault => simp [settle]
  | ok ids =>
    show _ = _ + (c.pool.merge ids c.config.maxEntries).2.counted s
    rw [settle_ok_signals, List.cons_append, List.map_cons, List.sum_cons, List.map_append,
      List.sum_append, List.map_singleton, List.sum_singleton, Signal.counted_sized _ hs]
    generalize (c.pool.merge ids c.config.maxEntries).2 = merged
    by_cases h : 0 < merged.evicted
    · simp [Merged.counted, Merged.truncated, h, Signal.counted_evicted]
    · have hzero : merged.evicted = 0 := by omega
      simp [Merged.counted, Merged.truncated, hzero]

end ProductCache

namespace Desk

variable {σ : Type} [RandomSource σ]

/-- The request that an event is about; an arrival is about the one that arrives. -/
def Event.about (d : Desk σ) : Event → Ticket
  | .arrive _ => d.arrived
  | .grant ticket | .answer ticket _ | .drop ticket => ticket

/-- What an event logs. -/
def logged (d : Desk σ) : Event → List Signal
  | .arrive mode => [.poolAsked mode]
  | .grant _ => d.cache.enter.2.2
  | .answer ticket listing =>
    if d.calling.contains (ticket, .enabled) then (d.cache.settle d.catalog listing).2.2
    else [ProductCache.listingSignal d.catalog listing]
  | .drop _ => []

variable {d d' : Desk σ} {e : Event} {ticket : Ticket}

/-- An answer to a refresh logs what taking it in does. -/
theorem logged_of_refresh (calls : (ticket, .enabled) ∈ d.calling) (listing : Listing) :
    d.logged (.answer ticket listing) = (d.cache.settle d.catalog listing).2.2 :=
  if_pos (List.contains_iff_mem.mpr calls)

/-- Any other only logs how the call came back. -/
theorem logged_of_other (other : (ticket, .enabled) ∉ d.calling) (listing : Listing) :
    d.logged (.answer ticket listing) = [ProductCache.listingSignal d.catalog listing] :=
  if_neg fun h => other (List.contains_iff_mem.mp h)

/-- A step logs what its event does, and nothing else. -/
theorem Step.log_eq (hs : Step d e d') :
    d'.log = d.log ++ (d.logged e).map (e.about d, ·) := by
  cases hs with
  | queue | call => rfl
  | hit waits free enters | miss waits free enters =>
    rw [logged, enters]
    rfl
  | settle listing calls =>
    rw [logged_of_refresh calls]
    rfl
  | pass listing other calls =>
    rw [logged_of_other other]
    rfl
  | leave | abandon | hangUp => exact (List.append_nil _).symm

theorem Step.signals_eq (hs : Step d e d') : d'.signals = d.signals ++ d.logged e :=
  signals_of_log hs.log_eq

/-- A counter moves by what the signals count. -/
theorem Step.value_eq (hs : Step d e d') {s : Series} (h : s ≠ .cacheSize) :
    (Metrics.ofSignals d'.signals).value s =
      (Metrics.ofSignals d.signals).value s + ((d.logged e).map (·.counted s)).sum := by
  rw [hs.signals_eq, Metrics.value_ofSignals_append h]

/-- A grant counts a hit or a miss, by what its turn decides. -/
theorem sum_counted_grant (d : Desk σ) (ticket : Ticket) (s : Series) :
    ((d.logged (.grant ticket)).map (·.counted s)).sum =
      if s = (if d.cache.refreshes.1 then .cacheMisses else .cacheHits) then 1 else 0 := by
  rw [logged]
  cases hr : d.cache.refreshes.1 with
  | true =>
    rw [ProductCache.enter_of_refresh hr, List.map_singleton, List.sum_singleton,
      Signal.counted_miss, if_pos rfl]
  | false =>
    rw [ProductCache.enter_of_not_refresh hr, List.map_singleton, List.sum_singleton,
      Signal.counted_hit, if_neg Bool.false_ne_true]

/-- What an answer of the catalog logs counts that it came back; if it is taken in, the merge may
have dropped ids. -/
theorem sum_counted_answer (d : Desk σ) (ticket : Ticket) (listing : Listing) {s : Series}
    (h : s ∉ [Series.cacheSize, .cacheTruncations, .cacheEvictions]) :
    ((d.logged (.answer ticket listing)).map (·.counted s)).sum =
      if s = .catalogRequests listing.isOk ∨ s = .catalogDuration then 1 else 0 := by
  simp only [List.mem_cons, List.not_mem_nil, or_false, not_or] at h
  rw [← counted_listingSignal d.catalog]
  by_cases hcalls : (ticket, CacheMode.enabled) ∈ d.calling
  · rw [logged_of_refresh hcalls, ProductCache.sum_counted_settle _ _ _ h.1]
    cases listing <;> simp [Merged.counted, h.2]
  · rw [logged_of_other hcalls, List.map_singleton, List.sum_singleton]

end Desk

end Shortlist
