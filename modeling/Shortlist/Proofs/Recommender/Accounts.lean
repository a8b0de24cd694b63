import Shortlist.Proofs.Cache.Accounts
import Shortlist.Proofs.Cache.Spans
import Shortlist.Proofs.Recommender.Log

/-!
# The metrics account for the run

What is counted of requests in flight together, and what their spans record, is what has happened to
them: `run_accounts` puts the accounts of the desk together with that of the answers, for every
reachable state of a recommender.
-/

namespace Shortlist.Reception

/-- The metrics account for the run, in every state that a run leads to, whatever fails or is
dropped on the way and however the requests are interleaved, if the gate tells of flags only.

The desk follows the events that the run makes there, and the log holds what it logs. The hits and
the misses are the grants of the cache, which only enabled requests are given. The catalog calls
that are started are the misses and the disabled requests that arrive at the desk, those that came
back are counted by what they brought, and each has one sample of its duration. Of the merges of the
successful refreshes, one after the other, the truncations are those that have evicted ids, the
evictions are these ids, and the ids that were added are those evicted and those that are held. The
gauge exists once a refresh has succeeded and then shows how many are held, and the recommendations
are the products of all good answers.

The span of every request that was granted the cache records once whether it was a hit, and this is
what has been counted of it; and it records the size of the pool that it was answered with, if it
was answered with one. -/
theorem run_accounts {γ σ τ : Type} [FlagGate γ] [FlagGate.TellsFlags γ] [RandomSource σ]
    [RandomSource τ] (gate : γ) (cacheFlag : String) (config : CacheConfig) (source : σ)
    (catalog : String) (selector : Selector τ) (events : List Event) (r : Reception γ σ τ)
    (h : (new gate cacheFlag (Desk.new config source catalog) selector).run events = some r) :
    let atDesk :=
      (new gate cacheFlag (Desk.new config source catalog) selector).deskEvents events
    let m := Metrics.ofSignals r.log
    let merges := mergeOutcomes config.maxEntries .empty (Desk.refreshes atDesk)
    ((Desk.new config source catalog).run atDesk = some r.desk ∧
      r.log.filter Signal.ofDesk = r.desk.signals) ∧
    m.value .cacheHits + m.value .cacheMisses = (Desk.granted atDesk).length ∧
    (∀ t ∈ Desk.granted atDesk, (Desk.modes atDesk)[t]? = some .enabled) ∧
    (Desk.started (Desk.new config source catalog) atDesk).length =
      m.value .cacheMisses + (Desk.modes atDesk).count .disabled ∧
    (∀ good, m.value (.catalogRequests good) =
      (Desk.returned atDesk).countP (·.isOk = good)) ∧
    m.value (.catalogRequests true) + m.value (.catalogRequests false) =
      (Desk.returned atDesk).length ∧
    m.value .catalogDuration = (Desk.returned atDesk).length ∧
    m.value .cacheTruncations = merges.countP (0 < ·.evicted) ∧
    m.value .cacheEvictions = (merges.map (·.evicted)).sum ∧
    (merges.map (·.added)).sum = m.value .cacheEvictions + r.desk.cache.size ∧
    m.value? .cacheSize =
      (if Desk.refreshes atDesk = [] then none else some r.desk.cache.size) ∧
    m.value .recommendations = (r.answered.map (·.2.served)).sum ∧
    ∀ t ∈ Desk.granted atDesk,
      (∃ hit : Bool,
        TraceRecord.recordedValues TraceRecord.poolSpan "app.cache_hit"
          (TraceRecord.ofSignals (r.desk.signalsOf t)) = [.bool hit] ∧
        (Metrics.ofSignals (r.desk.signalsOf t)).value .cacheHits = hit.toNat ∧
        (Metrics.ofSignals (r.desk.signalsOf t)).value .cacheMisses = (!hit).toNat) ∧
      TraceRecord.recordedValues TraceRecord.poolSpan "app.cache.size"
          (TraceRecord.ofSignals (r.desk.signalsOf t)) =
        (Desk.sizes (r.desk.result? t)).map .count := by
  intro atDesk m merges
  have hdesk : (Desk.new config source catalog).run atDesk = some r.desk := run_desk h
  have hlogged := run_logged h
  have hvalue : ∀ s : Series, s.ofDesk = true →
      m.value s = (Metrics.ofSignals r.desk.signals).value s := fun s hs =>
    hlogged.value_of_ofDesk hs
  obtain ⟨hgood, hduration⟩ := Desk.run_returned hdesk
  have hevictions : m.value .cacheEvictions = (merges.map (·.evicted)).sum := by
    rw [hvalue _ rfl, Desk.run_evicted hdesk]
  refine ⟨⟨hdesk, hlogged.desk⟩, ?_, (Desk.run_ledger hdesk).granted_enabled, ?_, ?_, ?_, ?_, ?_,
    hevictions, ?_, ?_, ?_, ?_⟩
  · rw [hvalue _ rfl, hvalue _ rfl]
    exact Desk.run_turns hdesk
  · rw [hvalue _ rfl]
    exact Desk.run_started hdesk
  · intro good
    rw [hvalue _ rfl]
    exact hgood good
  · rw [hvalue _ rfl, hvalue _ rfl, hgood, hgood, List.length_eq_countP_add_countP (·.isOk = true)]
    simp
  · rw [hvalue _ rfl]
    exact hduration
  · rw [hvalue _ rfl, Desk.run_merged hdesk (Or.inl rfl), sum_counted_truncations]
    rfl
  · -- What is added is evicted or held, and the size is that of the pool.
    have hsize : r.desk.cache.size =
        (Desk.mergeAll config.maxEntries (Desk.refreshes atDesk)).size := by
      rw [(Desk.run_cache hdesk).2.1.mirrored, Desk.run_pool hdesk]
    rw [hevictions, hsize]
    exact sum_added_mergeOutcomes config.maxEntries (Desk.refreshes atDesk)
  · show m.value? _ = _
    rw [hlogged.value?_of_ofDesk rfl]
    exact Desk.run_gauge hdesk
  · rw [← served, ← hlogged.recommendations]
    exact Metrics.value_ofSignals (by simp) _
  · intro t ht
    exact ⟨Desk.run_recorded_hit hdesk ht, Desk.run_recorded_size hdesk ht⟩

/-- A request that is refused, one whose refresh evicts an id, a hit, a live call that fails, and a
refresh that is dropped. -/
theorem run_accounts_of_eviction_and_drop :
    let start : Reception (ServiceGate Http.Unreachable) Random.Fixed Random.Fixed :=
      new (.table (.ofList [("flag", true)])) "flag"
        (Desk.new { maxEntries := 2 } { units := [0.75, 0.25] } "shop") { source := {} }
    let events : List Event :=
      [.come "ann" ["\x01"], .come "bob" ["a"], .ask 1, .submit ⟨"cyd", ∅, .enabled⟩, .grant 0,
        .submit ⟨"dan", ∅, .disabled⟩, .answer 2 (.error (.catalogUnavailable "down")),
        .answer 0 (.ok [⟨"a"⟩, ⟨"b"⟩, ⟨"a"⟩, ⟨"c"⟩]), .grant 1, .submit ⟨"eve", ∅, .enabled⟩,
        .grant 3, .drop 3]
    ∃ r, start.run events = some r ∧
      let m := Metrics.ofSignals r.log
      m.value .cacheHits + m.value .cacheMisses = 3 ∧
      m.value (.catalogRequests true) = 1 ∧ m.value (.catalogRequests false) = 1 ∧
      m.value .catalogDuration = 2 ∧ m.value .cacheTruncations = 1 ∧
      m.value .cacheEvictions = 1 ∧ m.value? .cacheSize = some 2 ∧
      m.value .recommendations = 4 ∧
      TraceRecord.recordedValues TraceRecord.poolSpan "app.cache.size"
        (TraceRecord.ofSignals (r.desk.signalsOf 1)) = [.count 2] := by
  intro start events
  have hreached : (start.run events).map (fun r =>
      (r.desk.cache.size, (r.answered.map (·.2.served)).sum, Desk.sizes (r.desk.result? 1))) =
      some (2, 4, [2]) := by decide +kernel
  obtain ⟨r, hr, hfacts⟩ := Option.map_eq_some_iff.mp hreached
  simp only [Prod.mk.injEq] at hfacts
  obtain ⟨hsize, hserved, hresult⟩ := hfacts
  obtain ⟨-, hturns, -, -, hreturned, -, hduration, htruncations, hevictions, -, hgauge,
    hrecommendations, hspans⟩ := run_accounts _ _ _ _ _ _ _ _ hr
  have hgranted : Desk.granted (start.deskEvents events) = [0, 1, 3] := by decide +kernel
  refine ⟨r, hr, hturns, hreturned true, hreturned false, hduration, htruncations, hevictions, ?_,
    ?_, ?_⟩
  · rw [hgauge, hsize]
    rfl
  · rw [hrecommendations, hserved]
  · rw [(hspans 1 (hgranted ▸ by simp)).2, hresult]
    rfl

end Shortlist.Reception
