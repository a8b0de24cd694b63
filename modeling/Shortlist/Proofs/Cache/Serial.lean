import Shortlist.Proofs.Cache.Refreshes
import Shortlist.Proofs.Telemetry.Counters

/-!
# Interleaved requests are served as if one after the other

`ProductCache.serveAll` serves enabled requests one after the other. `run_serializable` says that an
interleaved run gives every request that was granted the cache the answer that it has there, when
they are served in the order of the grants, each with what its own catalog call brought, and that
both end with the same cache and the same counters.

The simulation is `Serial`. While a refresh is in flight, the sequential run has served it as a
request whose call never comes back, which leaves the cache where the interleaved run has it; when
the call does come back, the last request of the sequential run is served again, now with the
answer, and settles on the same cache. That it is the last one is what the lock is for.
-/

namespace Shortlist

namespace ProductCache

variable {σ : Type} [RandomSource σ]

/-- Serves enabled requests one after the other, each with what its catalog call brings if it makes
one. -/
def serveAll (c : ProductCache σ) (catalog : String) :
    List (Option Listing) → List (Option Listing) × ProductCache σ × List Signal
  | [] => ([], c, [])
  | answer :: later =>
    let (result, c, signals) := c.serve catalog answer
    let (results, c, more) := serveAll c catalog later
    (result :: results, c, signals ++ more)

/-- The last of several requests is served from the cache that the others leave. -/
theorem serveAll_concat (c : ProductCache σ) (catalog : String) (answers : List (Option Listing))
    (answer : Option Listing) :
    c.serveAll catalog (answers ++ [answer]) =
      ((c.serveAll catalog answers).1 ++
          [((c.serveAll catalog answers).2.1.serve catalog answer).1],
        ((c.serveAll catalog answers).2.1.serve catalog answer).2.1,
        (c.serveAll catalog answers).2.2 ++
          ((c.serveAll catalog answers).2.1.serve catalog answer).2.2) := by
  induction answers generalizing c with
  | nil => simp [serveAll]
  | cons first rest ih => simp [serveAll, ih, List.append_assoc]

/-- A request whose turn hits is answered at once. -/
theorem serve_of_hit {c c' : ProductCache σ} {pool : List ProductId} {signals : List Signal}
    (h : c.enter = (some pool, c', signals)) (catalog : String) (answer : Option Listing) :
    c.serve catalog answer = (some (.ok pool), c', signals) := by
  rw [serve, h]

/-- A request that misses and whose call never comes back has no answer. -/
theorem serve_of_miss_none {c c' : ProductCache σ} {signals : List Signal}
    (h : c.enter = (none, c', signals)) (catalog : String) :
    c.serve catalog none = (none, c', signals) := by
  rw [serve, h]

/-- A request that misses and whose call comes back settles with its answer. -/
theorem serve_of_miss_some {c c' : ProductCache σ} {signals : List Signal}
    (h : c.enter = (none, c', signals)) (catalog : String) (listing : Listing) :
    c.serve catalog (some listing) =
      (some (c'.settle catalog listing).1, (c'.settle catalog listing).2.1,
        signals ++ (c'.settle catalog listing).2.2) := by
  rw [serve, h]

/-- A request that is answered with a pool is answered with the one that it leaves. -/
theorem serve_eq_some_ok {c : ProductCache σ} {catalog : String} {answer : Option Listing}
    {ids : List ProductId} (h : (c.serve catalog answer).1 = some (.ok ids)) :
    ids = (c.serve catalog answer).2.1.pool.entries := by
  rcases henter : c.enter with ⟨_ | pool, c', signals⟩
  · rcases answer with _ | fault | listing
    · rw [serve_of_miss_none henter] at h
      cases h
    · rw [serve_of_miss_some henter] at h
      cases h
    · rw [serve_of_miss_some henter] at h ⊢
      cases h
      rfl
  · obtain ⟨-, hpool, hc, -⟩ := enter_eq_some henter
    rw [serve_of_hit henter] at h ⊢
    cases h
    rw [hpool, hc]

/-- Of several requests, each that is answered with a pool is answered with the one that it
leaves. -/
theorem serveAll_eq_some_ok (c : ProductCache σ) (catalog : String)
    {answers : List (Option Listing)} {k : Nat} {ids : List ProductId}
    (h : (c.serveAll catalog answers).1[k]? = some (some (.ok ids))) :
    ids = (c.serveAll catalog (answers.take (k + 1))).2.1.pool.entries := by
  induction answers generalizing c k with
  | nil => simp [serveAll] at h
  | cons answer later ih =>
    cases k with
    | zero => exact serve_eq_some_ok (by simpa [serveAll] using h)
    | succ k => exact ih (c.serve catalog answer).2.1 (by simpa [serveAll] using h)

end ProductCache

/-- Whether a signal is about the cache, and so given only by requests that were granted it. -/
def Signal.ofCache : Signal → Bool
  | .hit _ | .miss | .evicted _ _ _ | .sized _ => true
  | _ => false

/-- The counters of the cache. -/
def Series.ofCache : List Series :=
  [.cacheHits, .cacheMisses, .cacheTruncations, .cacheEvictions]

/-- A signal that is not about the cache leaves its counters and its gauge. -/
theorem Signal.value?_record_of_not_ofCache {signal : Signal} (h : signal.ofCache = false) :
    ∀ s ∈ .cacheSize :: Series.ofCache, ∀ m : Metrics, (m.record signal).value? s = m.value? s := by
  intro s hs m
  simp only [Series.ofCache, List.mem_cons, List.not_mem_nil, or_false] at hs
  rcases hs with rfl | rfl | rfl | rfl | rfl <;>
    cases signal <;> simp_all [ofCache, Metrics.record, Metrics.add, Metrics.value?_change]

/-- Lists of signals that agree on the cache agree on its counters and its gauge. -/
theorem Metrics.value?_eq_of_ofCache {signals signals' : List Signal}
    (h : signals.filter Signal.ofCache = signals'.filter Signal.ofCache) :
    ∀ s ∈ .cacheSize :: Series.ofCache,
      (ofSignals signals).value? s = (ofSignals signals').value? s := by
  intro s hs
  have hother : ∀ signal : Signal, signal.ofCache = false →
      ∀ m : Metrics, (m.record signal).value? s = m.value? s :=
    fun signal hsignal => Signal.value?_record_of_not_ofCache hsignal s hs
  rw [← value?_ofSignals_filter hother signals, h, value?_ofSignals_filter hother signals']

/-- In particular they agree on the values of its counters. -/
theorem Metrics.value_eq_of_ofCache {signals signals' : List Signal}
    (h : signals.filter Signal.ofCache = signals'.filter Signal.ofCache) :
    ∀ s ∈ Series.ofCache, (ofSignals signals).value s = (ofSignals signals').value s := by
  intro s hs
  rw [value, value, value?_eq_of_ofCache h s (List.mem_cons_of_mem _ hs)]

namespace Desk

/-- What the catalog brought to the requests that were granted the cache, in the order of the
grants; nothing to one that needed no call, was dropped or still waits for its call. -/
def turns (events : List Event) : List (Option Listing) :=
  (granted events).map (answerTo? events)

variable {σ : Type} [RandomSource σ]

/-- The sequential run stands where the interleaved one does. -/
structure Serial (start : ProductCache σ) (catalog : String) (events : List Event) (d : Desk σ) :
    Prop where
  name : d.catalog = catalog
  /-- Every request that was granted the cache has the answer that it has in sequence. -/
  results : (start.serveAll catalog (turns events)).1 = (granted events).map d.result?
  /-- Both have the same cache; a refresh in flight has taken nothing in yet. -/
  cache : (start.serveAll catalog (turns events)).2.1 = d.cache
  /-- Both tell the same of the cache. -/
  signals : (start.serveAll catalog (turns events)).2.2.filter Signal.ofCache =
    d.signals.filter Signal.ofCache
  /-- The request that holds the cache is the last, and it missed. -/
  pending : ∀ t, d.lock = some t → ∃ before, granted events = before ++ [t] ∧
    (start.serveAll catalog (before.map (answerTo? events))).2.1.enter = (none, d.cache, [.miss])

omit [RandomSource σ] in
/-- Logging a signal that is not about the cache leaves those that are. -/
theorem filter_signals_of_log {d d' : Desk σ} {ticket : Ticket} {signal : Signal}
    (h : d'.log = d.log ++ [(ticket, signal)]) (hother : signal.ofCache = false) :
    d'.signals.filter Signal.ofCache = d.signals.filter Signal.ofCache := by
  have htold : d'.signals = d.signals ++ [signal] := signals_of_log h
  rw [htold, List.filter_append, List.filter_cons_of_neg (by simp [hother]), List.filter_nil,
    List.append_nil]

namespace Serial

variable {start : ProductCache σ} {catalog : String} {events : List Event} {d d' : Desk σ}

/-- A new desk stands where a sequential run of no requests does. -/
theorem init (config : CacheConfig) (source : σ) (catalog : String) :
    Serial (.new config source) catalog [] (new config source catalog) where
  name := rfl
  results := rfl
  cache := rfl
  signals := rfl
  pending t ht := by cases ht

/-- A step that grants nothing, answers no request that was granted the cache, and leaves the cache
alone is no step of the sequential run. -/
theorem quiet (h : Serial start catalog events d) {e : Event}
    (grants : granted (events ++ [e]) = granted events)
    (answers : ∀ t ∈ granted events, answerTo? (events ++ [e]) t = answerTo? events t)
    (results : ∀ t ∈ granted events, d'.result? t = d.result? t)
    (named : d'.catalog = d.catalog) (cache : d'.cache = d.cache)
    (signals : d'.signals.filter Signal.ofCache = d.signals.filter Signal.ofCache)
    (lock : ∀ t, d'.lock = some t → d.lock = some t) :
    Serial start catalog (events ++ [e]) d' := by
  have hturns : turns (events ++ [e]) = turns events := by
    rw [turns, grants]
    exact List.map_congr_left answers
  constructor
  · rw [named, h.name]
  · rw [hturns, grants, h.results]
    exact List.map_congr_left fun t ht => (results t ht).symm
  · rw [hturns, cache, h.cache]
  · rw [hturns, signals, h.signals]
  · intro t ht
    obtain ⟨before, hbefore, henter⟩ := h.pending t (lock t ht)
    refine ⟨before, by rw [grants, hbefore], ?_⟩
    have hsame : before.map (answerTo? (events ++ [e])) = before.map (answerTo? events) :=
      List.map_congr_left fun u hu => answers u (by simp [hbefore, hu])
    rw [hsame, cache, henter]

/-- A grant is the next step of the sequential run: a request that is served and whose call, if it
makes one, has not come back. -/
theorem grant (h : Serial start catalog events d) {ticket : Ticket}
    (fresh : trail events ticket = []) {result : Option Listing} {signals : List Signal}
    (serves : d.cache.serve catalog none = (result, d'.cache, signals))
    (answered : d'.result? ticket = result)
    (results : ∀ t, t ≠ ticket → d'.result? t = d.result? t) (named : d'.catalog = d.catalog)
    (told : d'.signals = d.signals ++ signals)
    (lock : ∀ t, d'.lock = some t → t = ticket ∧ d.cache.enter = (none, d'.cache, [.miss])) :
    Serial start catalog (events ++ [.grant ticket]) d' := by
  have hgranted := granted_concat_grant events ticket
  have hanswers : answerTo? (events ++ [.grant ticket]) = answerTo? events :=
    funext fun t => answerTo?_concat_of_ne (by simp)
  have hnone : answerTo? events ticket = none := answerTo?_eq_none (by simp [fresh])
  have hturns : turns (events ++ [.grant ticket]) = turns events ++ [none] := by
    rw [turns, hgranted, hanswers, List.map_append, List.map_singleton, hnone]
    rfl
  constructor
  · rw [named, h.name]
  · -- Both serve the request last and leave the results of the others.
    rw [hturns, ProductCache.serveAll_concat, h.cache, serves, h.results, hgranted,
      List.map_append, List.map_singleton, answered]
    refine congrArg (· ++ [result]) (List.map_congr_left fun t ht => (results t ?_).symm)
    rintro rfl
    exact Ledger.not_granted_of_trail fresh ht
  · rw [hturns, ProductCache.serveAll_concat, h.cache, serves]
  · rw [hturns, ProductCache.serveAll_concat, h.cache, serves, told, List.filter_append,
      List.filter_append, h.signals]
  · -- Only a miss leaves the cache held, and then by this request.
    intro t ht
    obtain ⟨rfl, henter⟩ := lock t ht
    refine ⟨granted events, hgranted, ?_⟩
    rw [hanswers]
    have hcache : (start.serveAll catalog ((granted events).map (answerTo? events))).2.1 =
        d.cache := h.cache
    rw [hcache, henter]

/-- The answer to the request that holds the cache serves the last request of the sequential run
again, now with this answer. -/
theorem settle (h : Serial start catalog events d) (hledger : Ledger events d) {ticket : Ticket}
    (listing : Listing) (calls : (ticket, .enabled) ∈ d.calling)
    (cache : d'.cache = (d.cache.settle catalog listing).2.1)
    (answered : d'.answered = (ticket, (d.cache.settle catalog listing).1) :: d.answered)
    (named : d'.catalog = d.catalog)
    (told : d'.signals = d.signals ++ (d.cache.settle catalog listing).2.2)
    (free : d'.lock = none) :
    Serial start catalog (events ++ [.answer ticket listing]) d' := by
  obtain ⟨before, hbefore, henter⟩ := h.pending ticket ((hledger.lock ticket).mpr calls)
  have hgranted : granted (events ++ [.answer ticket listing]) = before ++ [ticket] := by
    rw [granted_concat_of_ne (by simp), hbefore]
  have hfresh : ticket ∉ before := hledger.last_not_mem_before hbefore
  have hopen : answerTo? events ticket = none := hledger.answerTo?_of_calling calls
  have hothers : before.map (answerTo? (events ++ [.answer ticket listing])) =
      before.map (answerTo? events) := by
    refine List.map_congr_left fun t ht => answerTo?_concat_of_ne fun other heq => ?_
    exact hfresh (by cases heq; exact ht)
  -- The sequential run before the answer and after it differ in how the last request is served.
  have hturns : turns events = before.map (answerTo? events) ++ [none] := by
    rw [turns, hbefore, List.map_append, List.map_singleton, hopen]
  have hturns' : turns (events ++ [.answer ticket listing]) =
      before.map (answerTo? events) ++ [some listing] := by
    rw [turns, hgranted, List.map_append, hothers, List.map_singleton,
      answerTo?_concat_answer listing hopen]
  have hresults := h.results
  have hsignals := h.signals
  rw [hturns, ProductCache.serveAll_concat, ProductCache.serve_of_miss_none henter]
    at hresults hsignals
  rw [hbefore, List.map_append] at hresults
  constructor
  · rw [named, h.name]
  · -- All but the last request are served as before.
    rw [hturns', ProductCache.serveAll_concat, ProductCache.serve_of_miss_some henter, hgranted,
      List.map_append, List.map_singleton, result?_of_answered answered,
      (List.append_inj' hresults rfl).1]
    refine congrArg (· ++ [_])
      (List.map_congr_left fun t ht => (result?_of_answered_of_ne answered ?_).symm)
    rintro rfl
    exact hfresh ht
  · rw [hturns', ProductCache.serveAll_concat, ProductCache.serve_of_miss_some henter, cache]
  · -- The miss has been told before, so that only what the answer tells is new.
    rw [hturns', ProductCache.serveAll_concat, ProductCache.serve_of_miss_some henter, told,
      List.filter_append d.signals, ← hsignals, ← List.append_assoc, List.filter_append]
  · intro t ht
    rw [free] at ht
    cases ht

/-- Every step of the desk is at most one step of the sequential run. -/
theorem step (h : Serial start catalog events d) (hledger : Ledger events d) {e : Event}
    (hs : Step d e d') : Serial start catalog (events ++ [e]) d' := by
  cases hs with
  | queue | call =>
    exact h.quiet (granted_concat_of_ne (by simp)) (fun t _ => answerTo?_concat_of_ne (by simp))
      (fun _ _ => rfl) rfl rfl (filter_signals_of_log rfl rfl) (fun _ ht => ht)
  | hit waits free enters =>
    refine h.grant (hledger.waiting _ waits).2 (ProductCache.serve_of_hit enters catalog none)
      (result?_of_answered rfl) (fun t ht => result?_of_answered_of_ne rfl ht) rfl
      (signals_of_log rfl) ?_
    intro t ht
    rw [show d.lock = some t from ht] at free
    cases free
  | miss waits free enters =>
    have hfresh := (hledger.waiting _ waits).2
    refine h.grant hfresh (ProductCache.serve_of_miss_none enters catalog)
      (hledger.unanswered _ (Or.inl hfresh)) (fun _ _ => rfl) rfl (signals_of_log rfl) ?_
    intro t ht
    refine ⟨(Option.some.inj ht).symm, ?_⟩
    rw [enters, (ProductCache.enter_eq_none enters).2]
  | settle listing calls =>
    refine h.settle hledger listing calls ?_ ?_ rfl ?_ rfl
    · rw [← h.name]
    · rw [← h.name]
    · rw [← h.name]
      exact signals_of_log rfl
  | @pass ticket listing other calls =>
    have hungranted : ∀ t ∈ granted events, t ≠ ticket := by
      rintro t ht rfl
      exact Ledger.not_granted_of_trail (hledger.calling _ _ calls).2 ht
    refine h.quiet (granted_concat_of_ne (by simp)) ?_ ?_ rfl rfl ?_ (fun _ ht => ht)
    · intro t ht
      refine answerTo?_concat_of_ne fun listing' heq => ?_
      cases heq
      exact hungranted _ ht rfl
    · exact fun t ht => result?_of_answered_of_ne rfl (hungranted t ht)
    · exact filter_signals_of_log rfl (by cases listing <;> rfl)
  | leave | hangUp =>
    exact h.quiet (granted_concat_of_ne (by simp)) (fun t _ => answerTo?_concat_of_ne (by simp))
      (fun _ _ => rfl) rfl rfl rfl (fun _ ht => ht)
  | abandon other calls =>
    exact h.quiet (granted_concat_of_ne (by simp)) (fun t _ => answerTo?_concat_of_ne (by simp))
      (fun _ _ => rfl) rfl rfl rfl (fun _ ht => by cases ht)

end Serial

/-- After every run the sequential run stands where the interleaved one does. -/
theorem run_serial {config : CacheConfig} {source : σ} {catalog : String} {events : List Event}
    {d : Desk σ} (h : (new config source catalog).run events = some d) :
    Serial (.new config source) catalog events d :=
  run_induction (Serial.init config source catalog)
    (fun hrun ih hs => ih.step (run_ledger hrun) hs) h

/-- Concurrent requests are served as if one after the other in the order in which they were granted
the cache. For every interleaving of enabled and disabled requests, serving just the requests that
were granted the cache in this order, from the same new cache and so with the same draws, each with
what its own catalog call brought, gives each of them the result that it had, and ends with the same
cache and the same counters of hits, misses, truncations and evictions. So the pool holds what every
completed refresh has merged into it, and each request that was answered with a pool was answered
with the one that its own turn left. -/
theorem run_serializable (config : CacheConfig) (source : σ) (catalog : String)
    (events : List Event) (d : Desk σ) (h : (new config source catalog).run events = some d) :
    let start := ProductCache.new config source
    let serial := start.serveAll catalog (turns events)
    serial.1 = (granted events).map d.result? ∧
      serial.2.1 = d.cache ∧
      (∀ s ∈ [Series.cacheHits, .cacheMisses, .cacheTruncations, .cacheEvictions],
        (Metrics.ofSignals serial.2.2).value s = (Metrics.ofSignals d.signals).value s) ∧
      d.cache.pool = mergeAll config.maxEntries (refreshes events) ∧
      (∀ (k : Nat) (t : Ticket) (ids : List ProductId), (granted events)[k]? = some t →
        d.result? t = some (.ok ids) →
        ids = (start.serveAll catalog ((turns events).take (k + 1))).2.1.pool.entries) := by
  intro start serial
  have hserial := run_serial h
  refine ⟨hserial.results, hserial.cache, Metrics.value_eq_of_ofCache hserial.signals, run_pool h,
    ?_⟩
  intro k t ids hk hresult
  refine ProductCache.serveAll_eq_some_ok start catalog ?_
  rw [hserial.results, List.getElem?_map, hk, Option.map_some, hresult]

/-- The third request overtakes the first, a disabled one is answered while its refresh is in
flight, the first then hits, and the refresh of the fourth fails. -/
theorem run_serializable_of_overtaking :
    ∃ d, (new { maxEntries := 2, refreshProbability := 0.5 }
        ({ units := [0.75, 0.25] } : Random.Fixed) "shop").run
          [.arrive .enabled, .arrive .disabled, .arrive .enabled, .arrive .enabled, .grant 2,
            .answer 1 (.ok [⟨"z"⟩]), .answer 2 (.ok [⟨"a"⟩, ⟨"b"⟩]), .grant 0, .grant 3,
            .answer 3 (.error (.catalogUnavailable "down"))] = some d ∧
      (((ProductCache.new { maxEntries := 2, refreshProbability := 0.5 }
          ({ units := [0.75, 0.25] } : Random.Fixed)).serveAll "shop"
            [some (.ok [⟨"a"⟩, ⟨"b"⟩]), none,
              some (.error (.catalogUnavailable "down"))]).1 =
        [d.result? 2, d.result? 0, d.result? 3]) ∧
      (((ProductCache.new { maxEntries := 2, refreshProbability := 0.5 }
          ({ units := [0.75, 0.25] } : Random.Fixed)).serveAll "shop"
            [some (.ok [⟨"a"⟩, ⟨"b"⟩]), none,
              some (.error (.catalogUnavailable "down"))]).2.1 = d.cache) := by
  obtain ⟨d, hd⟩ : ∃ d, (new { maxEntries := 2, refreshProbability := 0.5 }
      ({ units := [0.75, 0.25] } : Random.Fixed) "shop").run
        [.arrive .enabled, .arrive .disabled, .arrive .enabled, .arrive .enabled, .grant 2,
          .answer 1 (.ok [⟨"z"⟩]), .answer 2 (.ok [⟨"a"⟩, ⟨"b"⟩]), .grant 0, .grant 3,
          .answer 3 (.error (.catalogUnavailable "down"))] = some d := ⟨_, rfl⟩
  obtain ⟨hresults, hcache, -⟩ := run_serializable _ _ _ _ d hd
  exact ⟨d, hd, hresults, hcache⟩

end Desk

end Shortlist
