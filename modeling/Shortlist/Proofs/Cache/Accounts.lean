import Shortlist.Proofs.Cache.Merges

/-!
# The counters account for the run

The counters of the cache and of the catalog can be read off the events of a run: the hits and the
misses are the grants (`run_turns`), the calls that are started are the misses and the disabled
arrivals (`run_started`), those that came back are the answers (`run_returned`), and the gauge shows
the size of the cache since the first refresh (`run_gauge`). Each is a conservation law that one
step keeps, whatever its event does.
-/

namespace Shortlist.Desk

/-- What the catalog calls that came back have brought, in order. -/
def returned (events : List Event) : List Listing :=
  events.filterMap fun
    | .answer _ listing => some listing
    | _ => none

variable {σ : Type} [RandomSource σ]

/-- The catalog calls that are started along a run: after each step those that are in flight and
were not before. -/
def started (d : Desk σ) (events : List Event) : List (Ticket × CacheMode) :=
  yielded step (fun d _ d' => d'.calling.removeAll d.calling) d events

variable {config : CacheConfig} {source : σ} {catalog : String} {events : List Event}
  {d d' : Desk σ} {e : Event}

/-! ## Grants -/

/-- Only a grant counts a hit or a miss, and it counts one of them. -/
theorem sum_counted_turn (d : Desk σ) (e : Event) :
    ((d.logged e).map (·.counted .cacheHits)).sum +
      ((d.logged e).map (·.counted .cacheMisses)).sum = (granted [e]).length := by
  cases e with
  | arrive | drop => rfl
  | grant ticket =>
    rw [sum_counted_grant, sum_counted_grant]
    cases d.cache.refreshes.1 <;> rfl
  | answer ticket listing =>
    rw [sum_counted_answer d ticket listing (by simp),
      sum_counted_answer d ticket listing (by simp)]
    simp [granted]

/-- The hits and the misses are the grants. -/
theorem run_turns (h : (new config source catalog).run events = some d) :
    (Metrics.ofSignals d.signals).value .cacheHits +
      (Metrics.ofSignals d.signals).value .cacheMisses = (granted events).length := by
  refine run_induction (P := fun events d =>
    (Metrics.ofSignals d.signals).value .cacheHits +
      (Metrics.ofSignals d.signals).value .cacheMisses = (granted events).length) rfl ?_ h
  rintro events d e d' - ih hs
  have hturn := sum_counted_turn d e
  rw [hs.value_eq (by simp), hs.value_eq (by simp), granted_append, List.length_append]
  omega

/-! ## Calls that are started -/

/-- No call is new among some of those before. -/
theorem removeAll_of_subset {calling calling' : List (Ticket × CacheMode)}
    (h : calling' ⊆ calling) : calling'.removeAll calling = [] := by
  rw [List.removeAll, List.filter_eq_nil_iff]
  intro call hcall
  simpa using h hcall

/-- A call that is added is the new one. -/
theorem removeAll_concat {calling : List (Ticket × CacheMode)} {call : Ticket × CacheMode}
    (h : call ∉ calling) : (calling ++ [call]).removeAll calling = [call] := by
  have hbefore := removeAll_of_subset (List.Subset.refl calling)
  rw [List.removeAll] at hbefore ⊢
  rw [List.filter_append, hbefore, List.nil_append, List.filter_cons_of_pos (by simpa using h),
    List.filter_nil]

/-- A step starts a call for each miss that it counts and each disabled request that arrives. -/
theorem Step.started_eq (hs : Step d e d') (h : Ledger events d) :
    (d'.calling.removeAll d.calling).length =
      ((d.logged e).map (·.counted .cacheMisses)).sum + (modes [e]).count .disabled := by
  cases hs with
  | queue => rw [removeAll_of_subset (List.Subset.refl _)]; rfl
  | call =>
    -- Nobody with the number of the one that arrives has been here before.
    have hfresh : (d.arrived, CacheMode.disabled) ∉ d.calling :=
      fun hm => Nat.lt_irrefl _ (h.lt_arrived (h.calling _ _ hm).1)
    rw [removeAll_concat hfresh]
    rfl
  | hit waits free enters =>
    have hrefreshes := ProductCache.refreshes_of_hit enters
    rw [removeAll_of_subset (List.Subset.refl _), sum_counted_grant, hrefreshes]
    rfl
  | miss waits free enters =>
    have hrefreshes := ProductCache.refreshes_of_miss enters
    rw [removeAll_concat (h.not_calling_of_waiting waits _), sum_counted_grant, hrefreshes]
    rfl
  | settle listing | pass listing =>
    rw [removeAll_of_subset (List.erase_subset), sum_counted_answer d _ listing (by simp)]
    simp [modes]
  | leave => rw [removeAll_of_subset (List.Subset.refl _)]; rfl
  | abandon | hangUp => rw [removeAll_of_subset (List.erase_subset)]; rfl

/-- The calls that are started are those of the misses and of the disabled requests. -/
theorem run_started (h : (new config source catalog).run events = some d) :
    (started (new config source catalog) events).length =
      (Metrics.ofSignals d.signals).value .cacheMisses + (modes events).count .disabled := by
  refine run_induction (P := fun events d =>
    (started (new config source catalog) events).length =
      (Metrics.ofSignals d.signals).value .cacheMisses + (modes events).count .disabled) rfl ?_ h
  intro events d e d' hrun ih hs
  have hstarted := hs.started_eq (run_ledger hrun)
  rw [started, yielded_concat hrun (step_eq_some_iff.mpr hs), List.length_append, hstarted,
    ← started, ih, hs.value_eq (by simp), modes_append, List.count_append]
  omega

/-! ## Calls that come back -/

/-- Only an answer counts as a call that came back. -/
theorem sum_counted_call (d : Desk σ) (e : Event) :
    (∀ good, ((d.logged e).map (·.counted (.catalogRequests good))).sum =
      (returned [e]).countP (·.isOk = good)) ∧
      ((d.logged e).map (·.counted .catalogDuration)).sum = (returned [e]).length := by
  cases e with
  | arrive | drop => exact ⟨fun _ => rfl, rfl⟩
  | grant ticket =>
    refine ⟨fun good => ?_, ?_⟩ <;>
      · rw [sum_counted_grant]
        cases d.cache.refreshes.1 <;> rfl
  | answer ticket listing =>
    refine ⟨fun good => ?_, ?_⟩
    · rw [sum_counted_answer d ticket listing (by simp)]
      simp [returned, List.countP_cons, eq_comm]
    · rw [sum_counted_answer d ticket listing (by simp)]
      simp [returned]

/-- The calls that came back are counted by what they brought, and each has its duration. -/
theorem run_returned (h : (new config source catalog).run events = some d) :
    (∀ good, (Metrics.ofSignals d.signals).value (.catalogRequests good) =
      (returned events).countP (·.isOk = good)) ∧
      (Metrics.ofSignals d.signals).value .catalogDuration = (returned events).length := by
  refine run_induction (P := fun events d =>
    (∀ good, (Metrics.ofSignals d.signals).value (.catalogRequests good) =
      (returned events).countP (·.isOk = good)) ∧
      (Metrics.ofSignals d.signals).value .catalogDuration = (returned events).length)
    ⟨fun _ => rfl, rfl⟩ ?_ h
  rintro events d e d' - ⟨hgood, hduration⟩ hs
  obtain ⟨hgood', hduration'⟩ := sum_counted_call d e
  have happend : returned (events ++ [e]) = returned events ++ returned [e] :=
    List.filterMap_append
  refine ⟨fun good => ?_, ?_⟩
  · rw [hs.value_eq (by simp), hgood, hgood', happend, List.countP_append]
  · rw [hs.value_eq (by simp), hduration, hduration', happend, List.length_append]

/-! ## The gauge -/

/-- A grant does not tell the size of the cache. -/
theorem not_sized_of_grant (d : Desk σ) (ticket : Ticket) :
    ∀ signal ∈ d.logged (.grant ticket), ∀ n, signal ≠ .sized n := by
  rw [logged]
  cases hr : d.cache.refreshes.1 with
  | true => simp [ProductCache.enter_of_refresh hr]
  | false => simp [ProductCache.enter_of_not_refresh hr]

/-- The gauge is registered by the first successful refresh, and shows the size of the cache. -/
theorem run_gauge (h : (new config source catalog).run events = some d) :
    (Metrics.ofSignals d.signals).value? .cacheSize =
      if refreshes events = [] then none else some d.cache.size := by
  refine run_induction (P := fun events d => (Metrics.ofSignals d.signals).value? .cacheSize =
    if refreshes events = [] then none else some d.cache.size) rfl ?_ h
  intro events d e d' hrun ih hs
  have hledger := run_ledger hrun
  -- A step that completes no refresh leaves the gauge and the size.
  have hquiet : refreshed? (modes events) e = none → d'.cache.size = d.cache.size →
      (∀ signal ∈ d.logged e, ∀ n, signal ≠ .sized n) →
      (Metrics.ofSignals d'.signals).value? .cacheSize =
        if refreshes (events ++ [e]) = [] then none else some d'.cache.size := by
    intro hnone hsize hsignals
    rw [hs.signals_eq, Metrics.value?_ofSignals_append_of_leaves (fun signal hsignal =>
      Signal.value?_record_cacheSize (hsignals signal hsignal)), ih, hledger.refreshes_concat,
      hnone, hsize, Option.toList_none, List.append_nil]
  have hsignals := hs.signals_eq
  cases hs with
  | queue | call | leave | abandon | hangUp => exact hquiet rfl rfl (by simp [logged])
  | hit waits free enters | miss waits free enters =>
    have hsize := d.cache.enter_frame.2.2.1
    rw [enters] at hsize
    exact hquiet rfl hsize (not_sized_of_grant d _)
  | settle listing calls =>
    cases listing with
    | error fault =>
      refine hquiet rfl rfl ?_
      simp [logged_of_refresh calls, ProductCache.settle_error]
    | ok ids =>
      rw [hledger.refreshes_concat, hledger.refreshed?_of_refresh calls, if_neg]
      · rw [hsignals, logged_of_refresh calls, ProductCache.settle_ok_signals, ← List.append_assoc,
          Metrics.value?_ofSignals_concat_sized]
        rfl
      · simp
  | pass listing other calls =>
    refine hquiet (hledger.refreshed?_of_live calls listing) rfl ?_
    cases listing <;> simp [logged_of_other other, ProductCache.listingSignal]

end Shortlist.Desk
