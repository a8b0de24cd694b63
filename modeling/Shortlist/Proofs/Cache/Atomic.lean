import Shortlist.Proofs.Cache.Serial

/-!
# Refreshes are atomic

A refresh writes in two places: when the request is granted the cache, and when its catalog call
comes back. Between the two the cache stays as the grant has left it (`run_hold`), whatever other
requests do meanwhile, and a call that fails or is given up writes nothing more. So such a refresh
has spent the first turn and a draw, and nothing that requests are served from has changed
(`Step.fruitless_cache`).

What requests are served is therefore always the work of refreshes that succeeded. `Served` says so
of every pool that a request has been answered with: it is the one that the most recent of them left
(`Left`), counting in the order in which requests were granted the cache.

`run_refresh_atomic` states both.
-/

namespace Shortlist

/-! ## What a refresh that comes to nothing counts -/

namespace Metrics

variable {more : List Signal}

/-- A miss, with signals beside it that are not about the cache, moves neither the gauge nor any
counter of the cache but that of misses. -/
theorem value?_of_miss (h : ∀ signal ∈ more, signal.ofCache = false) (signals : List Signal) :
    ∀ s ∈ [Series.cacheSize, .cacheHits, .cacheTruncations, .cacheEvictions],
      (ofSignals (signals ++ .miss :: more)).value? s = (ofSignals signals).value? s := by
  intro s hs
  have hmiss : Series.cacheMisses ≠ s := by
    rintro rfl
    simp at hs
  have hcache : s ∈ .cacheSize :: Series.ofCache := by
    simp only [Series.ofCache, List.mem_cons, List.not_mem_nil, or_false] at hs ⊢
    tauto
  refine value?_ofSignals_append_of_leaves (List.forall_mem_cons.mpr ⟨?_, ?_⟩) signals
  · intro m
    rw [record, add, value?_change, if_neg hmiss]
  · exact fun signal hsignal => Signal.value?_record_of_not_ofCache (h signal hsignal) s hcache

/-- And that of misses it moves by one. -/
theorem value_cacheMisses_of_miss (h : ∀ signal ∈ more, signal.ofCache = false)
    (signals : List Signal) :
    (ofSignals (signals ++ .miss :: more)).value .cacheMisses =
      (ofSignals signals).value .cacheMisses + 1 := by
  have hquiet : (ofSignals (signals ++ [.miss] ++ more)).value? .cacheMisses =
      (ofSignals (signals ++ [.miss])).value? .cacheMisses :=
    value?_ofSignals_append_of_leaves (fun signal hsignal =>
      Signal.value?_record_of_not_ofCache (h signal hsignal) _ (by simp [Series.ofCache])) _
  rw [List.append_cons, value, hquiet, ← value, value_ofSignals_append (by simp),
    List.map_singleton, List.sum_singleton, Signal.counted_miss, if_pos rfl]

/-- What a miss counts, what others count meanwhile, and what a failure at the end counts. -/
theorem value_of_fruitless (signals others : List Signal) (catalog : String)
    (fault? : Option Fault) :
    ∀ s ≠ .cacheSize,
      (ofSignals (signals ++ .miss :: (others ++
          fault?.toList.map (Signal.listingFailed catalog)))).value s =
        (ofSignals signals).value s + (ofSignals others).value s +
          (if s = .cacheMisses then 1 else 0) +
          if fault?.isSome ∧ (s = .catalogRequests false ∨ s = .catalogDuration) then 1 else 0 := by
  intro s hs
  rw [value_ofSignals_append hs, value_ofSignals hs others, List.map_cons, List.sum_cons,
    List.map_append, List.sum_append, Signal.counted_miss]
  cases fault? with
  | none =>
    simp only [Option.toList_none, List.map_nil, List.sum_nil, Option.isSome_none,
      Bool.false_eq_true, false_and, if_false]
    omega
  | some fault =>
    simp only [Option.toList_some, List.map_cons, List.map_nil, List.sum_singleton,
      Signal.counted_listingFailed, Option.isSome_some, true_and]
    omega

end Metrics

namespace Desk

/-- The event that ends a refresh with nothing: its call fails, or its request is dropped. -/
def Event.fruitless (ticket : Ticket) : Option Fault → Event
  | some fault => .answer ticket (.error fault)
  | none => .drop ticket

/-- Whether a request's catalog call brought a listing. -/
def refreshed (events : List Event) (ticket : Ticket) : Bool :=
  match answerTo? events ticket with
  | some (.ok _) => true
  | _ => false

variable {σ : Type} [RandomSource σ]

/-- What the most recent successful refresh among `turns` left in the pool when its listing came
back; nothing if there is none. -/
def Left (start : Desk σ) (events : List Event) (turns : List Ticket) (ids : List ProductId) :
    Prop :=
  match (turns.filter (refreshed events)).getLast? with
  | none => ids = []
  | some ticket => ∃ earlier listing later d,
      events = earlier ++ .answer ticket (.ok listing) :: later ∧
        start.run (earlier ++ [.answer ticket (.ok listing)]) = some d ∧
        ids = d.cache.pool.entries

/-! ## A refresh that comes to nothing -/

section

variable {events earlier later : List Event} {d d' d₀ d₁ d₂ d₃ : Desk σ} {e : Event}
  {ticket : Ticket}

/-- A request that refreshes leaves the cache with its first turn spent, and with one draw made
unless it was the first turn. -/
theorem Step.refresh_cache (hs : Step d (.grant ticket) d')
    (refreshes : d.cache.refreshes.1 = true) :
    d'.lock = some ticket ∧ d'.log = d.log ++ [(ticket, .miss)] ∧ d'.catalog = d.catalog ∧
      d'.cache = { d.cache with
        source :=
          if d.cache.firstRun then d.cache.source else (RandomSource.unit d.cache.source).2
        firstRun := false } := by
  have henter := ProductCache.enter_of_refresh refreshes
  cases hs with
  | hit waits free enters =>
    rw [henter] at enters
    cases enters
  | miss waits free enters =>
    rw [henter] at enters
    cases enters
    rw [← ProductCache.refreshes_source]
    exact ⟨rfl, rfl, rfl, rfl⟩

/-- A request that holds the cache after a step held it before, unless it has just been granted. -/
theorem Step.lock_before (hs : Step d e d') (hlock : d'.lock = some ticket)
    (hgrant : e ≠ .grant ticket) : d.lock = some ticket := by
  cases hs with
  | @miss t =>
    obtain rfl : t = ticket := Option.some.inj hlock
    exact absurd rfl hgrant
  | settle => cases hlock
  | abandon => cases hlock
  | hit waits free => exact hlock
  | _ => exact hlock

/-- While a request holds the cache, a step leaves the cache and logs nothing but what is not about
it, and of other requests. -/
theorem Step.hold (hs : Step d e d') (h : Ledger events d) (hlock : d.lock = some ticket)
    (hlock' : d'.lock = some ticket) :
    d'.cache = d.cache ∧ d'.catalog = d.catalog ∧ ∃ others : List (Ticket × Signal),
      d'.log = d.log ++ others ∧ ∀ entry ∈ others, entry.1 ≠ ticket ∧ entry.2.ofCache = false := by
  have hcall := (h.lock ticket).mp hlock
  have hnew : d.arrived ≠ ticket :=
    (Nat.ne_of_lt (h.lt_arrived (h.calling _ _ hcall).1)).symm
  cases hs with
  | queue | call =>
    exact ⟨rfl, rfl, [(d.arrived, .poolAsked _)], rfl, by simp [hnew, Signal.ofCache]⟩
  | hit waits free =>
    rw [hlock] at free
    cases free
  | miss waits free =>
    rw [hlock] at free
    cases free
  | settle => cases hlock'
  | @pass t listing other calls =>
    have hother : t ≠ ticket := by
      rintro rfl
      exact other hcall
    refine ⟨rfl, rfl, [(t, ProductCache.listingSignal d.catalog listing)], rfl, ?_⟩
    cases listing <;> simp [hother, ProductCache.listingSignal, Signal.ofCache]
  | leave => exact ⟨rfl, rfl, [], (List.append_nil _).symm, by simp⟩
  | abandon => cases hlock'
  | hangUp => exact ⟨rfl, rfl, [], (List.append_nil _).symm, by simp⟩

/-- As long as a request holds the cache it stays as it is, and only others are logged, of whom
nothing is about the cache. -/
theorem run_hold {config : CacheConfig} {source : σ} {catalog : String}
    (h₁ : (new config source catalog).run earlier = some d₁) (hgranted : ticket ∈ granted earlier)
    (h₂ : d₁.run later = some d₂) (hlock : d₂.lock = some ticket) :
    d₂.cache = d₁.cache ∧ d₂.catalog = d₁.catalog ∧ ∃ others : List (Ticket × Signal),
      d₂.log = d₁.log ++ others ∧
        ∀ entry ∈ others, entry.1 ≠ ticket ∧ entry.2.ofCache = false := by
  refine run_induction (P := fun _ d => d.lock = some ticket →
    d.cache = d₁.cache ∧ d.catalog = d₁.catalog ∧ ∃ others : List (Ticket × Signal),
      d.log = d₁.log ++ others ∧
        ∀ entry ∈ others, entry.1 ≠ ticket ∧ entry.2.ofCache = false) ?_ ?_ h₂ hlock
  · exact fun _ => ⟨rfl, rfl, [], (List.append_nil _).symm, by simp⟩
  · intro events d e d' hrun ih hs hlock'
    have hreached : (new config source catalog).run (earlier ++ events) = some d := by
      rw [run_append, h₁]
      exact hrun
    have hledger := run_ledger hreached
    -- The request has had its grant, so that it has not just been granted the cache again.
    have hgrant : e ≠ .grant ticket := by
      rintro rfl
      refine (hledger.step hs).last_not_mem_before (granted_concat_grant _ ticket) ?_
      rw [granted, List.filterMap_append]
      exact List.mem_append_left _ hgranted
    have hlock := hs.lock_before hlock' hgrant
    obtain ⟨hcache, hname, others, hlog, hothers⟩ := ih hlock
    obtain ⟨hcache', hname', more, hlog', hmore⟩ := hs.hold hledger hlock hlock'
    refine ⟨hcache'.trans hcache, hname'.trans hname, others ++ more, ?_, ?_⟩
    · rw [hlog', hlog, List.append_assoc]
    · intro entry hentry
      rcases List.mem_append.mp hentry with hentry | hentry
      · exact hothers entry hentry
      · exact hmore entry hentry

/-- A request that has been granted the cache and comes to nothing held it, gives it free, and
changes nothing else but its own result. -/
theorem Step.fruitless_cache {fault? : Option Fault} (hs : Step d (.fruitless ticket fault?) d')
    (h : Ledger events d) (hgranted : ticket ∈ granted events) :
    d.lock = some ticket ∧ d'.lock = none ∧ d'.cache = d.cache ∧
      d'.log = d.log ++ fault?.toList.map (fun fault => (ticket, .listingFailed d.catalog fault)) ∧
      d'.result? ticket = fault?.map .error := by
  have henabled := h.granted_enabled ticket hgranted
  have hwaits : ticket ∉ d.waiting := fun hw =>
    Ledger.not_granted_of_trail (h.waiting ticket hw).2 hgranted
  have hdisabled : (ticket, .disabled) ∉ d.calling := by
    intro hcall
    have hmode := (h.calling _ _ hcall).1
    rw [henabled] at hmode
    cases hmode
  cases fault? with
  | none =>
    cases hs with
    | leave waits => exact absurd waits hwaits
    | abandon other calls =>
      exact ⟨(h.lock _).mpr calls, rfl, rfl, (List.append_nil _).symm,
        h.unanswered _ (Or.inr calls)⟩
    | hangUp other another calls => exact absurd calls hdisabled
  | some fault =>
    cases hs with
    | settle listing calls => exact ⟨(h.lock _).mpr calls, rfl, rfl, rfl, result?_of_answered rfl⟩
    | pass listing other calls => exact absurd calls hdisabled

/-- What is left of a refresh that comes to nothing: the first turn and a draw are spent, and the
miss and the failure are logged. -/
theorem run_fruitless {config : CacheConfig} {source : σ} {catalog : String}
    {fault? : Option Fault} (h₀ : (new config source catalog).run earlier = some d₀)
    (hgrant : d₀.step (.grant ticket) = some d₁) (hrefreshes : d₀.cache.refreshes.1 = true)
    (h₂ : d₁.run later = some d₂) (hend : d₂.step (.fruitless ticket fault?) = some d₃) :
    d₃.cache = { d₀.cache with
      source :=
        if d₀.cache.firstRun then d₀.cache.source else (RandomSource.unit d₀.cache.source).2
      firstRun := false } ∧
      d₃.lock = none ∧ d₃.result? ticket = fault?.map .error ∧
      ∃ others : List (Ticket × Signal),
        (∀ entry ∈ others, entry.1 ≠ ticket ∧ entry.2.ofCache = false) ∧
          d₃.log = d₀.log ++ (ticket, .miss) :: others ++
            fault?.toList.map (fun fault => (ticket, .listingFailed catalog fault)) := by
  have h₁ : (new config source catalog).run (earlier ++ [.grant ticket]) = some d₁ :=
    foldlM_concat_eq_some.mpr ⟨d₀, h₀, hgrant⟩
  have hreached : (new config source catalog).run (earlier ++ [.grant ticket] ++ later) =
      some d₂ := by
    rw [run_append, h₁]
    exact h₂
  have hgranted : ticket ∈ granted (earlier ++ [.grant ticket]) := by
    rw [granted_concat_grant]
    exact List.mem_append_right _ (List.mem_singleton_self ticket)
  have hgranted' : ticket ∈ granted (earlier ++ [.grant ticket] ++ later) := by
    rw [granted, List.filterMap_append]
    exact List.mem_append_left _ hgranted
  -- The three stretches: the grant, the end, and the time in flight between them.
  obtain ⟨-, hlog₁, hname₁, hcache₁⟩ := (Step.of_step hgrant).refresh_cache hrefreshes
  obtain ⟨hlock₂, hlock₃, hcache₃, hlog₃, hresult⟩ :=
    (Step.of_step hend).fruitless_cache (run_ledger hreached) hgranted'
  obtain ⟨hcache₂, -, others, hlog₂, hothers⟩ := run_hold h₁ hgranted h₂ hlock₂
  have hname : d₂.catalog = catalog := (run_serial hreached).name
  refine ⟨?_, hlock₃, hresult, others, hothers, ?_⟩
  · rw [hcache₃, hcache₂, hcache₁]
  · rw [hlog₃, hlog₂, hlog₁, hname, List.append_assoc d₀.log]
    rfl

end

/-! ## What requests are served -/

section

variable {start d d' : Desk σ} {events : List Event} {turns : List Ticket} {ids : List ProductId}
  {e : Event} {ticket : Ticket}

omit [RandomSource σ] in
/-- A request about whose call nothing is known has not refreshed the cache. -/
theorem refreshed_of_answerTo?_eq_none (h : answerTo? events ticket = none) :
    refreshed events ticket = false := by
  rw [refreshed, h]

omit [RandomSource σ] in
/-- An event that brings no request of `turns` an answer leaves which of them have refreshed the
cache. -/
theorem refreshed_concat (h : ∀ listing, e ≠ .answer ticket listing) :
    refreshed (events ++ [e]) ticket = refreshed events ticket := by
  rw [refreshed, refreshed, answerTo?_concat_of_ne h]

/-- What was left stays so as long as no other of the requests refreshes the cache. -/
theorem Left.concat (h : Left start events turns ids)
    (same : ∀ t ∈ turns, refreshed (events ++ [e]) t = refreshed events t) :
    Left start (events ++ [e]) turns ids := by
  unfold Left at h ⊢
  rw [List.filter_congr same]
  split
  · rename_i hlatest
    rwa [hlatest] at h
  · rename_i t hlatest
    rw [hlatest] at h
    obtain ⟨earlier, listing, later, d, rfl, hrun, hids⟩ := h
    exact ⟨earlier, listing, later ++ [e], d, by simp, hrun, hids⟩

/-- A request that does not refresh the cache leaves what was left. -/
theorem Left.idle (h : Left start events turns ids) (hidle : refreshed events ticket = false) :
    Left start events (turns ++ [ticket]) ids := by
  unfold Left at h ⊢
  rwa [List.filter_append, List.filter_cons_of_neg (by simp [hidle]), List.filter_nil,
    List.append_nil]

/-- A request whose listing has just come back has left the pool as it is. -/
theorem Left.latest {listing : List ProductId}
    (hrun : start.run (events ++ [.answer ticket (.ok listing)]) = some d)
    (hrefreshed : refreshed (events ++ [.answer ticket (.ok listing)]) ticket = true) :
    Left start (events ++ [.answer ticket (.ok listing)]) (turns ++ [ticket])
      d.cache.pool.entries := by
  unfold Left
  rw [List.filter_append, List.filter_cons_of_pos hrefreshed, List.filter_nil,
    List.getLast?_concat]
  exact ⟨events, listing, [], d, rfl, hrun, rfl⟩

omit [RandomSource σ] in
/-- The last of different tickets is not among those up to another. -/
theorem last_not_mem {first after before : List Ticket} {t last : Ticket}
    (hnodup : (before ++ [last]).Nodup) (hsplit : first ++ t :: after = before ++ [last])
    (ht : t ≠ last) : last ∉ first ++ [t] := by
  intro hlast
  rw [← hsplit, List.append_cons] at hnodup
  have hapart := (List.nodup_append'.mp hnodup).2.2
  rcases List.eq_nil_or_concat after with rfl | ⟨between, u, rfl⟩
  · exact ht (List.singleton_inj.mp (List.append_inj' hsplit rfl).2)
  · rw [List.concat_eq_append, ← List.cons_append, ← List.append_assoc] at hsplit
    rw [List.concat_eq_append] at hapart
    obtain rfl := List.singleton_inj.mp (List.append_inj' hsplit rfl).2
    exact hapart hlast (List.mem_append_right _ (List.mem_singleton_self _))

/-- All pools that requests are served are the work of successful refreshes. -/
structure Served (start : Desk σ) (events : List Event) (d : Desk σ) : Prop where
  /-- The pool is the one that the most recent successful refresh left. -/
  pool : Left start events (granted events) d.cache.pool.entries
  /-- An enabled request that has been answered with a pool was granted the cache, and the pool is
  the one that the most recent successful refresh left, up to its own. -/
  answers : ∀ t ids, (modes events)[t]? = some .enabled → d.result? t = some (.ok ids) →
    ∃ before after, granted events = before ++ t :: after ∧ Left start events (before ++ [t]) ids

namespace Served

/-- An event that refreshes nothing and answers no enabled request with a pool. -/
theorem quiet (h : Served start events d) (grants : granted (events ++ [e]) = granted events)
    (same : ∀ t ∈ granted events, refreshed (events ++ [e]) t = refreshed events t)
    (pool : d'.cache.pool = d.cache.pool)
    (answers : ∀ t ids, (modes (events ++ [e]))[t]? = some .enabled →
      d'.result? t = some (.ok ids) →
      (modes events)[t]? = some .enabled ∧ d.result? t = some (.ok ids)) :
    Served start (events ++ [e]) d' := by
  constructor
  · rw [grants, pool]
    exact h.pool.concat same
  · intro t ids hmode hresult
    obtain ⟨hmode, hresult⟩ := answers t ids hmode hresult
    obtain ⟨before, after, hgranted, hleft⟩ := h.answers t ids hmode hresult
    refine ⟨before, after, grants.trans hgranted, hleft.concat ?_⟩
    intro u hu
    refine same u ?_
    rw [hgranted, List.append_cons]
    exact List.mem_append_left _ hu

/-- An arrival: the request that arrives has no result. -/
theorem arrive (h : Served start events d) (hledger : Ledger events d) {mode : CacheMode}
    (pool : d'.cache.pool = d.cache.pool) (results : ∀ t, d'.result? t = d.result? t) :
    Served start (events ++ [.arrive mode]) d' := by
  refine h.quiet (granted_concat_of_ne (by simp)) (fun t _ => refreshed_concat (by simp)) pool ?_
  intro t ids hmode hresult
  rw [results] at hresult
  refine ⟨?_, hresult⟩
  have hlt : t < (modes events).length := by
    rw [← hledger.arrived]
    by_contra hge
    rw [hledger.unanswered t (Or.inl (hledger.ahead t (Nat.not_lt.mp hge)))] at hresult
    cases hresult
  rwa [getElem?_modes_concat events _ hlt] at hmode

/-- A grant: the request is served the pool as it is, or nothing yet. -/
theorem grant (h : Served start events d) (hledger : Ledger events d) (waits : ticket ∈ d.waiting)
    (pool : d'.cache.pool = d.cache.pool)
    (result : ∀ ids, d'.result? ticket = some (.ok ids) → ids = d.cache.pool.entries)
    (results : ∀ t, t ≠ ticket → d'.result? t = d.result? t) :
    Served start (events ++ [.grant ticket]) d' := by
  have hgranted := granted_concat_grant events ticket
  have htrail := (hledger.waiting ticket waits).2
  have hmodes : modes (events ++ [.grant ticket]) = modes events :=
    modes_concat_of_ticket (rfl : Event.ticket? (.grant ticket) = some ticket)
  -- Nothing has come back to the request, so that it leaves the pool to those before it.
  have hidle : refreshed (events ++ [.grant ticket]) ticket = false := by
    rw [refreshed_concat (by simp)]
    exact refreshed_of_answerTo?_eq_none (answerTo?_eq_none (by simp [htrail]))
  have hpool : Left start (events ++ [.grant ticket]) (granted events ++ [ticket])
      d.cache.pool.entries :=
    (h.pool.concat fun t _ => refreshed_concat (by simp)).idle hidle
  constructor
  · rw [hgranted, pool]
    exact hpool
  · intro t ids hmode hresult
    by_cases ht : t = ticket
    · subst ht
      rw [result ids hresult]
      exact ⟨granted events, [], hgranted, hpool⟩
    · rw [results t ht] at hresult
      rw [hmodes] at hmode
      obtain ⟨before, after, hbefore, hleft⟩ := h.answers t ids hmode hresult
      refine ⟨before, after ++ [ticket], ?_, hleft.concat fun u _ => refreshed_concat (by simp)⟩
      rw [hgranted, hbefore, List.append_assoc, List.cons_append]

/-- The answer to a refresh: a listing leaves the pool that its request is answered with, and a
fault changes nothing. -/
theorem settle (h : Served start events d) (hledger : Ledger events d) {listing : Listing}
    (calls : (ticket, .enabled) ∈ d.calling)
    (hrun : start.run (events ++ [.answer ticket listing]) = some d')
    (cache : d'.cache = (d.cache.settle d.catalog listing).2.1)
    (answered : d'.answered = (ticket, (d.cache.settle d.catalog listing).1) :: d.answered) :
    Served start (events ++ [.answer ticket listing]) d' := by
  have hmodes : modes (events ++ [.answer ticket listing]) = modes events :=
    modes_concat_of_ticket (rfl : Event.ticket? (.answer ticket listing) = some ticket)
  have hgranted : granted (events ++ [.answer ticket listing]) = granted events :=
    granted_concat_of_ne (by simp)
  have hopen : answerTo? events ticket = none := hledger.answerTo?_of_calling calls
  have hothers : ∀ t, t ≠ ticket →
      refreshed (events ++ [.answer ticket listing]) t = refreshed events t := by
    intro t ht
    refine refreshed_concat fun other heq => ?_
    cases heq
    exact ht rfl
  have hresult := result?_of_answered answered
  have hown : refreshed (events ++ [.answer ticket listing]) ticket = listing.isOk := by
    rw [refreshed, answerTo?_concat_answer listing hopen]
    cases listing <;> rfl
  cases listing with
  | error fault =>
    refine h.quiet hgranted ?_ (by rw [cache]; rfl) ?_
    · intro t _
      by_cases ht : t = ticket
      · rw [ht, hown, refreshed_of_answerTo?_eq_none hopen]
        rfl
      · exact hothers t ht
    · intro t ids hmode hpool
      rw [hmodes] at hmode
      refine ⟨hmode, ?_⟩
      have ht : t ≠ ticket := by
        rintro rfl
        rw [hresult] at hpool
        cases hpool
      rwa [result?_of_answered_of_ne answered ht] at hpool
  | ok fresh =>
    -- The request holds the cache, so it is the last that was granted it.
    obtain ⟨before, hbefore⟩ :=
      List.getLast?_eq_some_iff.mp (hledger.latest ticket ((hledger.lock ticket).mpr calls))
    have hpool : Left start (events ++ [.answer ticket (.ok fresh)]) (before ++ [ticket])
        d'.cache.pool.entries := Left.latest hrun (by rw [hown]; rfl)
    constructor
    · rw [hgranted, hbefore]
      exact hpool
    · intro t ids hmode hids
      by_cases ht : t = ticket
      · subst ht
        refine ⟨before, [], hgranted.trans hbefore, ?_⟩
        have hentries : ids = d'.cache.pool.entries := by
          rw [hresult] at hids
          cases hids
          rw [cache]
          rfl
        rw [hentries]
        exact hpool
      · rw [result?_of_answered_of_ne answered ht] at hids
        rw [hmodes] at hmode
        obtain ⟨first, after, hsplit, hleft⟩ := h.answers t ids hmode hids
        refine ⟨first, after, hgranted.trans hsplit, hleft.concat ?_⟩
        -- The requests up to this one are others than the last.
        intro u hu
        have hnodup := hledger.granted_nodup
        rw [hbefore] at hsplit hnodup
        refine hothers u ?_
        rintro rfl
        exact last_not_mem hnodup hsplit.symm ht hu

/-- Every step keeps what requests are served the work of successful refreshes. -/
theorem step (h : Served start events d) (hledger : Ledger events d) (hs : Step d e d')
    (hrun : start.run (events ++ [e]) = some d') : Served start (events ++ [e]) d' := by
  cases hs with
  | queue => exact h.arrive hledger rfl (fun _ => rfl)
  | call => exact h.arrive hledger rfl (fun _ => rfl)
  | hit waits free enters =>
    obtain ⟨-, rfl, rfl, -⟩ := ProductCache.enter_eq_some enters
    refine h.grant hledger waits rfl ?_ (fun t ht => result?_of_answered_of_ne rfl ht)
    intro ids hids
    rw [result?_of_answered (d := d) rfl] at hids
    cases hids
    rfl
  | miss waits free enters =>
    obtain ⟨rfl, -⟩ := ProductCache.enter_eq_none enters
    refine h.grant hledger waits rfl ?_ (fun _ _ => rfl)
    intro ids hids
    have hnone := hledger.unanswered _ (Or.inl (hledger.waiting _ waits).2)
    rw [show d.result? _ = some (.ok ids) from hids] at hnone
    cases hnone
  | settle listing calls => exact h.settle hledger calls hrun rfl rfl
  | @pass t listing other calls =>
    obtain ⟨hmode, htrail⟩ := hledger.calling _ _ calls
    have hmodes : modes (events ++ [.answer t listing]) = modes events :=
      modes_concat_of_ticket (rfl : Event.ticket? (.answer t listing) = some t)
    refine h.quiet (granted_concat_of_ne (by simp)) ?_ rfl ?_
    · intro u hu
      refine refreshed_concat fun other heq => ?_
      cases heq
      exact Ledger.not_granted_of_trail htrail hu
    · -- The request is disabled, so it is not one of those that are told of.
      intro u ids hu hids
      rw [hmodes] at hu
      refine ⟨hu, ?_⟩
      have hne : u ≠ t := by
        rintro rfl
        rw [hmode] at hu
        cases hu
      rwa [result?_of_answered_of_ne (d := d) rfl hne] at hids
  | leave | abandon | hangUp =>
    refine h.quiet (granted_concat_of_ne (by simp)) (fun t _ => refreshed_concat (by simp)) rfl ?_
    intro t ids hmode hids
    rw [modes_concat_of_ticket rfl] at hmode
    exact ⟨hmode, hids⟩

end Served

/-- In every run all pools that requests are served are the work of successful refreshes. -/
theorem run_served {config : CacheConfig} {source : σ} {catalog : String}
    (h : (new config source catalog).run events = some d) :
    Served (new config source catalog) events d := by
  refine run_induction (P := Served (new config source catalog)) ?_ ?_ h
  · exact ⟨rfl, fun t ids _ hresult => by cases hresult⟩
  · intro events d e d' hrun ih hs
    exact ih.step (run_ledger hrun) hs
      (foldlM_concat_eq_some.mpr ⟨d, hrun, step_eq_some_iff.mpr hs⟩)

end

/-- Refreshes are atomic. Let a request be granted the cache and refresh it, whatever happens while
its catalog call is in flight, and let the call then fail or the request be dropped. Then the cache
is as it was before the grant but for its first turn, which is spent, and for one draw if it had
been spent before; the gauge and the counters of hits, truncations and evictions have not moved, and
that of misses by one. All that has been logged since is the miss, signals of other requests, and
the failure if there was one, which counts as one failed call and one duration; the request is
answered with the very fault, or not at all.

So in every run an enabled request that is answered with a pool gets the one that the most recent
successful refresh left, among the requests that were granted the cache up to itself, and an empty
one if there was none. -/
theorem run_refresh_atomic (config : CacheConfig) (source : σ) (catalog : String) :
    (∀ (earlier later : List Event) (ticket : Ticket) (fault? : Option Fault)
        (d₀ d₁ d₂ d₃ : Desk σ),
      (new config source catalog).run earlier = some d₀ →
      d₀.step (.grant ticket) = some d₁ → d₀.cache.refreshes.1 = true →
      d₁.run later = some d₂ → d₂.step (.fruitless ticket fault?) = some d₃ →
      d₃.cache = { d₀.cache with
        source :=
          if d₀.cache.firstRun then d₀.cache.source else (RandomSource.unit d₀.cache.source).2
        firstRun := false } ∧
      d₃.lock = none ∧ d₃.result? ticket = fault?.map .error ∧
      (∀ s ∈ [Series.cacheSize, .cacheHits, .cacheTruncations, .cacheEvictions],
        (Metrics.ofSignals d₃.signals).value? s = (Metrics.ofSignals d₀.signals).value? s) ∧
      (Metrics.ofSignals d₃.signals).value .cacheMisses =
        (Metrics.ofSignals d₀.signals).value .cacheMisses + 1 ∧
      ∃ others : List (Ticket × Signal), (∀ entry ∈ others, entry.1 ≠ ticket) ∧
        d₃.log = d₀.log ++ (ticket, .miss) :: others ++
          fault?.toList.map (fun fault => (ticket, .listingFailed catalog fault)) ∧
        ∀ s ≠ .cacheSize, (Metrics.ofSignals d₃.signals).value s =
          (Metrics.ofSignals d₀.signals).value s +
            (Metrics.ofSignals (others.map (·.2))).value s +
            (if s = .cacheMisses then 1 else 0) +
            if fault?.isSome ∧ (s = .catalogRequests false ∨ s = .catalogDuration) then 1
            else 0) ∧
    (∀ (events : List Event) (d : Desk σ), (new config source catalog).run events = some d →
      ∀ (ticket : Ticket) (ids : List ProductId), (modes events)[ticket]? = some .enabled →
        d.result? ticket = some (.ok ids) →
        ∃ before after, granted events = before ++ ticket :: after ∧
          Left (new config source catalog) events (before ++ [ticket]) ids) := by
  refine ⟨?_, fun events d h => (run_served h).answers⟩
  intro earlier later ticket fault? d₀ d₁ d₂ d₃ h₀ hgrant hrefreshes h₂ hend
  obtain ⟨hcache, hlock, hresult, others, hothers, hlog⟩ :=
    run_fruitless h₀ hgrant hrefreshes h₂ hend
  have hsignals : d₃.signals = d₀.signals ++ (Signal.miss :: (others.map (·.2) ++
      fault?.toList.map (Signal.listingFailed catalog))) := by
    rw [signals, hlog]
    simp [signals]
  have hquiet : ∀ signal ∈ others.map (·.2), signal.ofCache = false := by
    intro signal hsignal
    obtain ⟨entry, hentry, rfl⟩ := List.mem_map.mp hsignal
    exact (hothers entry hentry).2
  have hquiet' : ∀ signal ∈ others.map (·.2) ++ fault?.toList.map (Signal.listingFailed catalog),
      signal.ofCache = false := by
    intro signal hsignal
    rcases List.mem_append.mp hsignal with hsignal | hsignal
    · exact hquiet signal hsignal
    · obtain ⟨fault, -, rfl⟩ := List.mem_map.mp hsignal
      rfl
  rw [hsignals]
  exact ⟨hcache, hlock, hresult, Metrics.value?_of_miss hquiet' d₀.signals,
    Metrics.value_cacheMisses_of_miss hquiet' d₀.signals, others,
    fun entry hentry => (hothers entry hentry).1, hlog,
    Metrics.value_of_fruitless d₀.signals (others.map (·.2)) catalog fault?⟩

/-- A refresh fails while a disabled request is answered beside it, and the request after it hits:
it is served what the first refresh left. -/
theorem run_refresh_atomic_of_failure :
    let start := new { maxEntries := 3 } ({ units := [0.25, 0.75] } : Random.Fixed) "shop"
    let earlier : List Event :=
      [.arrive .enabled, .arrive .enabled, .arrive .disabled, .arrive .enabled, .grant 0,
        .answer 0 (.ok [⟨"a"⟩, ⟨"b"⟩])]
    let events := earlier ++ [.grant 1] ++ [.answer 2 (.ok [⟨"z"⟩])] ++
      [.answer 1 (.error (.catalogUnavailable "down"))] ++ [.grant 3]
    ∃ d₀ d₁ d₂ d₃ d : Desk Random.Fixed, start.run earlier = some d₀ ∧
      d₀.step (.grant 1) = some d₁ ∧ d₁.step (.answer 2 (.ok [⟨"z"⟩])) = some d₂ ∧
      d₂.step (.answer 1 (.error (.catalogUnavailable "down"))) = some d₃ ∧
      d₃.step (.grant 3) = some d ∧
      d₃.cache.pool = d₀.cache.pool ∧ d₃.cache.size = d₀.cache.size ∧
      d₃.result? 1 = some (.error (.catalogUnavailable "down")) ∧
      (Metrics.ofSignals d₃.signals).value .cacheMisses =
        (Metrics.ofSignals d₀.signals).value .cacheMisses + 1 ∧
      (Metrics.ofSignals d₃.signals).value? .cacheSize =
        (Metrics.ofSignals d₀.signals).value? .cacheSize ∧
      ∃ before after, granted events = before ++ 3 :: after ∧
        Left start events (before ++ [3]) [⟨"a"⟩, ⟨"b"⟩] := by
  intro start earlier events
  -- What the run comes to is evaluated once; its steps are read off it.
  have hserved : (start.run events).map (·.result? 3) = some (some (.ok [⟨"a"⟩, ⟨"b"⟩])) := by
    decide +kernel
  have hrefreshes : (start.run earlier).map (·.cache.refreshes.1) = some true := by
    decide +kernel
  obtain ⟨d, hrun, hhit⟩ := Option.map_eq_some_iff.mp hserved
  obtain ⟨d₃, hrun₃, hlast⟩ := foldlM_concat_eq_some.mp hrun
  obtain ⟨d₂, hrun₂, hend⟩ := foldlM_concat_eq_some.mp hrun₃
  obtain ⟨d₁, hrun₁, hpass⟩ := foldlM_concat_eq_some.mp hrun₂
  obtain ⟨d₀, hrun₀, hgrant⟩ := foldlM_concat_eq_some.mp hrun₁
  have hrefresh : d₀.cache.refreshes.1 = true := by
    obtain ⟨d, hd, hrefresh⟩ := Option.map_eq_some_iff.mp hrefreshes
    rwa [Option.some.inj (hd.symm.trans hrun₀)] at hrefresh
  have hflight : d₁.run [.answer 2 (.ok [⟨"z"⟩])] = some d₂ := by
    rw [run, List.foldlM_cons, hpass]
    rfl
  obtain ⟨hfails, hserves⟩ := run_refresh_atomic { maxEntries := 3 }
    ({ units := [0.25, 0.75] } : Random.Fixed) "shop"
  obtain ⟨hcache, -, hresult, hsame, hmisses, -⟩ :=
    hfails earlier _ 1 (some (.catalogUnavailable "down")) d₀ d₁ d₂ d₃ hrun₀ hgrant hrefresh
      hflight hend
  exact ⟨d₀, d₁, d₂, d₃, d, hrun₀, hgrant, hpass, hend, hlast, by rw [hcache], by rw [hcache],
    hresult, hmisses, hsame .cacheSize (by simp), hserves events d hrun 3 _ (by decide) hhit⟩

end Desk

end Shortlist
