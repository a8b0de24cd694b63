import Shortlist.Proofs.Cache.Decisions
import Shortlist.Proofs.Cache.Open
import Shortlist.Proofs.Cache.Signals
import Shortlist.Telemetry.Trace

/-!
# The span of a request at the cache

What is logged of one request at the desk (`signalsOf`) is what its span records. A request that was
granted the cache records once whether it was a hit (`run_recorded_hit`), and the size of the pool
that it was answered with, if it was answered with one (`run_recorded_size`).
-/

namespace Shortlist

namespace TraceRecord

/-- The values that a field of a span has been given. -/
def recordedValues (span field : String) (records : List TraceRecord) : List FieldValue :=
  records.filterMap fun
    | .recorded span' field' value => if span' = span ∧ field' = field then some value else none
    | _ => none

/-- Where each signal gives a field at most one value, its values are those of the signals. -/
theorem recordedValues_ofSignals {span field : String} {value? : Signal → Option FieldValue}
    (h : ∀ signal, recordedValues span field (ofSignal signal) = (value? signal).toList)
    (signals : List Signal) :
    recordedValues span field (ofSignals signals) = signals.filterMap value? := by
  induction signals with
  | nil => rfl
  | cons signal rest ih =>
    have happend : recordedValues span field (ofSignals (signal :: rest)) =
        recordedValues span field (ofSignal signal) ++
          recordedValues span field (ofSignals rest) := List.filterMap_append
    rw [happend, h, ih, List.filterMap_cons]
    cases value? signal <;> rfl

/-- Whether it was a hit is recorded when that is decided. -/
theorem recordedValues_hit (signals : List Signal) :
    recordedValues poolSpan "app.cache_hit" (ofSignals signals) =
      (signals.filterMap Signal.decision?).map fun refresh => .bool !refresh := by
  rw [List.map_filterMap]
  refine recordedValues_ofSignals (fun signal => ?_) signals
  cases signal <;> simp [recordedValues, ofSignal, Signal.decision?, poolSpan, recommendSpan]

end TraceRecord

/-- The size of a pool that a signal tells. -/
def Signal.size? : Signal → Option Nat
  | .hit size | .sized size => some size
  | _ => none

/-- The size of the pool is recorded when it is told. -/
theorem TraceRecord.recordedValues_size (signals : List Signal) :
    recordedValues poolSpan "app.cache.size" (ofSignals signals) =
      (signals.filterMap Signal.size?).map .count := by
  rw [List.map_filterMap]
  refine recordedValues_ofSignals (fun signal => ?_) signals
  cases signal <;> simp [recordedValues, ofSignal, Signal.size?, poolSpan, recommendSpan]

/-- The hits and the misses that signals count are the decisions that they tell of. -/
theorem Metrics.value_ofSignals_decisions (signals : List Signal) :
    (ofSignals signals).value .cacheHits = (signals.filterMap Signal.decision?).count false ∧
      (ofSignals signals).value .cacheMisses = (signals.filterMap Signal.decision?).count true := by
  rw [value_ofSignals (by simp), value_ofSignals (by simp)]
  induction signals with
  | nil => exact ⟨rfl, rfl⟩
  | cons signal rest ih =>
    rw [List.map_cons, List.sum_cons, List.map_cons, List.sum_cons, ih.1, ih.2]
    cases signal <;>
      simp [Signal.counted, Signal.decision?, record, value_add, value_set_of_ne, value_empty,
        List.filterMap_cons, Nat.add_comm]

namespace Desk

variable {σ : Type}

/-- What was logged of a request, in order. -/
def signalsOf (d : Desk σ) (ticket : Ticket) : List Signal :=
  (d.log.filter (·.1 = ticket)).map (·.2)

/-- The sizes that a request's result calls for: that of its pool, if it has one. -/
def sizes : Option Listing → List Nat
  | some (.ok pool) => [pool.length]
  | _ => []

variable [RandomSource σ] {config : CacheConfig} {source : σ} {catalog : String}
  {events : List Event} {d d' : Desk σ} {e : Event}

/-- A step logs of its own request what its event does. -/
theorem Step.signalsOf_about (hs : Step d e d') :
    d'.signalsOf (e.about d) = d.signalsOf (e.about d) ++ d.logged e := by
  rw [signalsOf, hs.log_eq, List.filter_append, List.map_append, ← signalsOf]
  simp [List.filter_map, Function.comp_def]

/-- And of no other. -/
theorem Step.signalsOf_of_ne (hs : Step d e d') {t : Ticket} (ht : e.about d ≠ t) :
    d'.signalsOf t = d.signalsOf t := by
  rw [signalsOf, hs.log_eq, List.filter_append, List.map_append, ← signalsOf]
  simp [List.filter_map, Function.comp_def, ht]

/-- A grant tells of one decision, and no other event of any. -/
theorem length_decisions_logged (d : Desk σ) (e : Event) :
    ((d.logged e).filterMap Signal.decision?).length = (granted [e]).length := by
  cases e with
  | arrive | drop => rfl
  | grant ticket =>
    rw [logged]
    cases hr : d.cache.refreshes.1 with
    | true => rw [ProductCache.enter_of_refresh hr]; rfl
    | false => rw [ProductCache.enter_of_not_refresh hr]; rfl
  | answer ticket listing =>
    have hnone : (d.logged (.answer ticket listing)).filterMap Signal.decision? = [] := by
      rw [List.filterMap_eq_nil_iff]
      by_cases hcalls : (ticket, CacheMode.enabled) ∈ d.calling
      · rw [logged_of_refresh hcalls]
        exact decision?_of_mem_settle
      · rw [logged_of_other hcalls]
        cases listing <;> simp [ProductCache.listingSignal, Signal.decision?]
    rw [hnone]
    rfl

/-- As many decisions are logged of a request as it was granted the cache. -/
theorem run_decisions_of (h : (new config source catalog).run events = some d) (t : Ticket) :
    ((d.signalsOf t).filterMap Signal.decision?).length = (granted events).count t := by
  refine run_induction (P := fun events d =>
    ((d.signalsOf t).filterMap Signal.decision?).length = (granted events).count t) rfl ?_ h
  rintro events d e d' - ih hs
  rw [granted_append, List.count_append]
  -- Only a step about the request can grant it the cache, and only such a step logs anything of it.
  by_cases ht : e.about d = t
  · subst ht
    rw [hs.signalsOf_about, List.filterMap_append, List.length_append, ih,
      length_decisions_logged]
    cases e <;> simp [granted, Event.about]
  · rw [hs.signalsOf_of_ne ht, ih]
    cases e with
    | grant ticket =>
      have hother : ticket ≠ t := ht
      simp [granted, hother]
    | _ => rfl

/-- A request that was granted the cache records once whether it was a hit, and this is what is
counted of it. -/
theorem run_recorded_hit (h : (new config source catalog).run events = some d) {t : Ticket}
    (ht : t ∈ granted events) :
    ∃ hit : Bool,
      TraceRecord.recordedValues TraceRecord.poolSpan "app.cache_hit"
        (TraceRecord.ofSignals (d.signalsOf t)) = [.bool hit] ∧
      (Metrics.ofSignals (d.signalsOf t)).value .cacheHits = hit.toNat ∧
      (Metrics.ofSignals (d.signalsOf t)).value .cacheMisses = (!hit).toNat := by
  have hone : ((d.signalsOf t).filterMap Signal.decision?).length = 1 := by
    rw [run_decisions_of h t, List.count_eq_one_of_mem (run_ledger h).granted_nodup ht]
  obtain ⟨refresh, hrefresh⟩ := List.length_eq_one_iff.mp hone
  obtain ⟨hhits, hmisses⟩ := Metrics.value_ofSignals_decisions (d.signalsOf t)
  refine ⟨!refresh, ?_, ?_, ?_⟩
  · rw [TraceRecord.recordedValues_hit, hrefresh]
    rfl
  · rw [hhits, hrefresh]
    cases refresh <;> rfl
  · rw [hmisses, hrefresh]
    cases refresh <;> rfl

/-- What a step logs of a request that is not disabled tells the size of the pool that it answers it
with, if it does. -/
theorem Step.sizes_about (hs : Step d e d') (h : Ledger events d)
    (hmode : (modes events)[e.about d]? ≠ some .disabled) :
    sizes (d.result? (e.about d)) ++ (d.logged e).filterMap Signal.size? =
      sizes (d'.result? (e.about d)) := by
  cases hs with
  | queue | call | leave | abandon | hangUp => exact List.append_nil _
  | hit waits free enters =>
    obtain ⟨-, rfl, -, rfl⟩ := ProductCache.enter_eq_some enters
    rw [Event.about, h.result?_of_open (Or.inl waits), result?_of_answered (d := d) rfl, logged,
      enters]
    rfl
  | miss waits free enters =>
    obtain ⟨-, rfl⟩ := ProductCache.enter_eq_none enters
    rw [logged, enters]
    exact List.append_nil _
  | settle listing calls =>
    rw [Event.about, h.result?_of_open (Or.inr ⟨_, calls⟩), result?_of_answered (d := d) rfl,
      logged_of_refresh calls]
    cases listing with
    | error fault => rfl
    | ok ids =>
      rw [ProductCache.settle_ok_signals]
      split <;> rfl
  | pass listing other calls => exact absurd (h.calling _ _ calls).1 hmode

/-- What is logged of a request that is not disabled tells the size of the pool that it is answered
with, and of no other. -/
theorem run_sizes (h : (new config source catalog).run events = some d) (t : Ticket) :
    (modes events)[t]? ≠ some .disabled →
      (d.signalsOf t).filterMap Signal.size? = sizes (d.result? t) := by
  refine run_induction (P := fun events d => (modes events)[t]? ≠ some .disabled →
    (d.signalsOf t).filterMap Signal.size? = sizes (d.result? t)) (fun _ => rfl) ?_ h
  intro events d e d' hrun ih hs hmode
  have hledger := run_ledger hrun
  have hbefore : (modes events)[t]? ≠ some .disabled := by
    intro hdisabled
    rw [getElem?_modes_concat events e (List.getElem?_eq_some_iff.mp hdisabled).1] at hmode
    exact hmode hdisabled
  have hsizes := ih hbefore
  -- A step about another request logs nothing of this one and leaves its result.
  by_cases ht : e.about d = t
  · subst ht
    rw [hs.signalsOf_about, List.filterMap_append, hsizes, hs.sizes_about hledger hbefore]
  · have hother : e.ticket? ≠ some t := by
      cases e with
      | arrive => simp [Event.ticket?]
      | _ => exact fun heq => ht (Option.some.inj heq)
    rw [hs.signalsOf_of_ne ht, hsizes, hs.result?_eq hother]

/-- A request that was granted the cache records the size of the pool that it is answered with, and
no size without one. -/
theorem run_recorded_size (h : (new config source catalog).run events = some d) {t : Ticket}
    (ht : t ∈ granted events) :
    TraceRecord.recordedValues TraceRecord.poolSpan "app.cache.size"
        (TraceRecord.ofSignals (d.signalsOf t)) = (sizes (d.result? t)).map .count := by
  have henabled := (run_ledger h).granted_enabled t ht
  rw [TraceRecord.recordedValues_size, run_sizes h t (by simp [henabled])]

end Desk

end Shortlist
