import Shortlist.Proofs.Cache.Invariant
import Shortlist.Proofs.Random.Threshold

/-!
# Which requests refresh the cache

Whether a request refreshes is decided when it is granted the cache, and by nothing but its turn:
the first turn refreshes, and the one after `k + 1` others does if the draw with number `k` is below
the refresh probability (`refreshesAt`). Failures, requests that are dropped and disabled requests
take no turn and make no draw.

`Decides` says what one event decides, and `run_decided` what has been decided after a run: the log
of decisions is the list of turns, each with its own (`Decided`). So the decisions of two runs with
the same turns and draws differ only by their refresh probabilities. `run_decisions` states it all.
-/

namespace Shortlist

/-- Whether a signal tells of a decision, and then whether it was to refresh. -/
def Signal.decision? : Signal → Option Bool
  | .miss => some true
  | .hit _ => some false
  | _ => none

/-- Whether the turn with a number refreshes: the first does, and each later one if its draw is
below a threshold. -/
def RandomSource.refreshesAt {σ : Type} [RandomSource σ] (source : σ) (p : Float) : Nat → Bool
  | 0 => true
  | k + 1 => drawn source k < p

namespace RandomSource

variable {σ σ' : Type} [RandomSource σ] [RandomSource σ'] {source : σ} {source' : σ'} {p q : Float}
  {k : Nat}

/-- A turn that refreshes does so under every higher threshold, if its draw is the same. -/
theorem refreshesAt_mono (hpq : p ≤ q) (same : ∀ j, j + 1 = k → drawn source' j = drawn source j)
    (h : refreshesAt source p k = true) : refreshesAt source' q k = true := by
  cases k with
  | zero => rfl
  | succ k =>
    have hbelow : drawn source k < p := of_decide_eq_true h
    refine decide_eq_true ?_
    rw [same k rfl]
    exact Random.lt_of_lt_of_le hbelow hpq

/-- Every turn refreshes if its draw is below the threshold. -/
theorem refreshesAt_of_lt (h : ∀ j, j + 1 = k → drawn source j < p) :
    refreshesAt source p k = true := by
  cases k with
  | zero => rfl
  | succ k => exact decide_eq_true (h k rfl)

/-- No turn but the first refreshes if its draw is not below the threshold. -/
theorem refreshesAt_of_le (h : ∀ j, j + 1 = k → p ≤ drawn source j) :
    refreshesAt source p k = decide (k = 0) := by
  cases k with
  | zero => rfl
  | succ k => exact decide_eq_false (Random.not_lt_of_le (h k rfl))

end RandomSource

namespace Desk

variable {σ : Type}

/-- The requests that were told whether to refresh, in order, and what they were told. -/
def decisions (d : Desk σ) : List (Ticket × Bool) :=
  d.log.filterMap fun entry => entry.2.decision?.map (entry.1, ·)

/-- What is decided when an event leads from one desk to another: a grant spends the first turn, and
its request refreshes if that was left, without a draw, or if its one draw is below `p`; it then
holds the cache and has its call in flight, and else it is answered with the pool. No other event
decides anything. -/
def Decides [RandomSource σ] (p : Float) (d : Desk σ) : Event → Desk σ → Prop
  | .grant ticket, d' =>
    d'.cache.firstRun = false ∧
      d'.cache.source =
        (if d.cache.firstRun then d.cache.source else (RandomSource.unit d.cache.source).2) ∧
      if d.cache.firstRun ∨ (RandomSource.unit d.cache.source).1 < p then
        d'.decisions = d.decisions ++ [(ticket, true)] ∧ d'.lock = some ticket ∧
          (ticket, .enabled) ∈ d'.calling
      else
        d'.decisions = d.decisions ++ [(ticket, false)] ∧ d'.lock = none ∧
          d'.result? ticket = some (.ok d.cache.pool.entries)
  | _, d' =>
    d'.cache.firstRun = d.cache.firstRun ∧ d'.cache.source = d.cache.source ∧
      d'.decisions = d.decisions

variable {events : List Event} {d d' : Desk σ} {e : Event} {ticket : Ticket}

/-- What is logged of a request adds what it tells of decisions. -/
theorem decisions_of_log (more : List Signal) (h : d'.log = d.log ++ more.map (ticket, ·)) :
    d'.decisions = d.decisions ++ (more.filterMap Signal.decision?).map (ticket, ·) := by
  rw [decisions, h, List.filterMap_append, List.filterMap_map, List.map_filterMap]
  rfl

/-- Signals that tell of no decision add none. -/
theorem decisions_of_silent (more : List Signal) (h : d'.log = d.log ++ more.map (ticket, ·))
    (silent : ∀ signal ∈ more, signal.decision? = none) : d'.decisions = d.decisions := by
  rw [decisions_of_log more h, List.filterMap_eq_nil_iff.mpr silent, List.map_nil, List.append_nil]

/-- The answer of the catalog tells of no decision. -/
theorem decision?_of_mem_settle {c : ProductCache σ} {catalog : String} {listing : Listing} :
    ∀ signal ∈ (c.settle catalog listing).2.2, signal.decision? = none := by
  intro signal hsignal
  cases listing with
  | error fault =>
    obtain rfl := List.mem_singleton.mp hsignal
    rfl
  | ok ids =>
    simp only [ProductCache.settle, ProductCache.listingSignal] at hsignal
    split at hsignal <;> simp only [List.cons_append, List.nil_append, List.mem_cons,
      List.not_mem_nil, or_false] at hsignal
    · rcases hsignal with rfl | rfl | rfl <;> rfl
    · rcases hsignal with rfl | rfl <;> rfl

variable [RandomSource σ]

/-- Every step decides what its event does. -/
theorem Step.decides (hs : Step d e d') : Decides d.cache.config.refreshProbability d e d' := by
  cases hs with
  | queue | call =>
    exact ⟨rfl, rfl, decisions_of_silent [.poolAsked _] rfl (by simp [Signal.decision?])⟩
  | @hit t ids cache signals waits free enters =>
    have hrefreshes := ProductCache.refreshes_of_hit enters
    obtain ⟨hfirst, rfl, rfl, rfl⟩ := ProductCache.enter_eq_some enters
    refine ⟨hfirst, d.cache.refreshes_source, ?_⟩
    rw [if_neg]
    · exact ⟨decisions_of_log [.hit _] rfl, free, result?_of_answered rfl⟩
    · rw [← ProductCache.refreshes_fst_iff, hrefreshes]
      exact Bool.false_ne_true
  | @miss t cache signals waits free enters =>
    have hrefreshes := ProductCache.refreshes_of_miss enters
    obtain ⟨rfl, rfl⟩ := ProductCache.enter_eq_none enters
    refine ⟨rfl, d.cache.refreshes_source, ?_⟩
    rw [if_pos (d.cache.refreshes_fst_iff.mp hrefreshes)]
    exact ⟨decisions_of_log [.miss] rfl, rfl, by simp⟩
  | settle listing calls =>
    obtain ⟨-, hsource, hfirst⟩ := d.cache.settle_frame d.catalog listing
    exact ⟨hfirst, hsource, decisions_of_silent _ rfl decision?_of_mem_settle⟩
  | pass listing other calls =>
    refine ⟨rfl, rfl, decisions_of_silent [ProductCache.listingSignal _ _] rfl ?_⟩
    cases listing <;> simp [ProductCache.listingSignal, Signal.decision?]
  | leave | abandon | hangUp => exact ⟨rfl, rfl, rfl⟩

/-- What has been decided after the events of a run: nothing but the turns has been, each by its
number and the draw with that number. -/
structure Decided (start : σ) (p : Float) (events : List Event) (d : Desk σ) : Prop where
  /-- Every turn but the first has made one draw. -/
  source : d.cache.source = RandomSource.after start ((granted events).length - 1)
  /-- The decisions are those of the turns. -/
  decisions : d.decisions = (granted events).zipIdx.map fun turn =>
    (turn.1, RandomSource.refreshesAt start p turn.2)

namespace Decided

variable {start : σ} {p : Float}

/-- The next turn makes the draw that belongs to its number, unless it is the first. -/
theorem next (h : Decided start p events d)
    (first : d.cache.firstRun = true ↔ granted events = []) :
    (d.cache.firstRun = true ∨ (RandomSource.unit d.cache.source).1 < p ↔
        RandomSource.refreshesAt start p (granted events).length = true) ∧
      (if d.cache.firstRun then d.cache.source else (RandomSource.unit d.cache.source).2) =
        RandomSource.after start (granted events).length := by
  have hsource := h.source
  rcases hturns : granted events with _ | ⟨t, earlier⟩
  · have hfirst : d.cache.firstRun = true := first.mpr hturns
    simp only [hturns] at hsource
    simp [hfirst, hsource, RandomSource.refreshesAt, RandomSource.after]
  · have hspent : d.cache.firstRun = false := by
      rw [Bool.eq_false_iff, ne_eq, first, hturns]
      exact List.cons_ne_nil t earlier
    simp only [hturns, List.length_cons, Nat.add_sub_cancel] at hsource
    simp only [hspent, hsource, Bool.false_eq_true, false_or, if_false, List.length_cons]
    exact ⟨decide_eq_true_iff.symm, rfl⟩

/-- Every step adds the decision of a turn, or none. -/
theorem step (h : Decided start p events d) (first : d.cache.firstRun = true ↔ granted events = [])
    (probability : d.cache.config.refreshProbability = p) (hs : Step d e d') :
    Decided start p (events ++ [e]) d' := by
  have hdecides := hs.decides
  rw [probability] at hdecides
  cases e with
  | grant t =>
    obtain ⟨hrefreshes, hsource⟩ := h.next first
    obtain ⟨-, hdrawn, htold⟩ := hdecides
    have htold' : d'.decisions = d.decisions ++
        [(t, RandomSource.refreshesAt start p (granted events).length)] := by
      split at htold
      · rename_i hdecision
        rw [htold.1, hrefreshes.mp hdecision]
      · rename_i hdecision
        rw [hrefreshes, Bool.not_eq_true] at hdecision
        rw [htold.1, hdecision]
    constructor
    · rw [hdrawn, hsource, granted_concat_grant, List.length_append]
      rfl
    · rw [htold', h.decisions, granted_concat_grant, List.zipIdx_append, List.map_append]
      simp
  | arrive | answer | drop =>
    obtain ⟨-, hsource, htold⟩ := hdecides
    constructor
    · rw [hsource, h.source, granted_concat_of_ne (by simp)]
    · rw [htold, h.decisions, granted_concat_of_ne (by simp)]

/-- A request was told what its turn decides. -/
theorem mem_decisions (h : Decided start p events d) {told : Bool} :
    (ticket, told) ∈ d.decisions ↔ ∃ k, (granted events)[k]? = some ticket ∧
      RandomSource.refreshesAt start p k = told := by
  rw [h.decisions, List.mem_map]
  constructor
  · rintro ⟨⟨t, k⟩, hturn, heq⟩
    obtain ⟨rfl, rfl⟩ := Prod.mk.inj heq
    exact ⟨k, List.mk_mem_zipIdx_iff_getElem?.mp hturn, rfl⟩
  · rintro ⟨k, hturn, rfl⟩
    exact ⟨(ticket, k), List.mk_mem_zipIdx_iff_getElem?.mpr hturn, rfl⟩

/-- If no draw is below the probability, only the first turn refreshes. -/
theorem filter_of_le (h : Decided start p events d)
    (draws : ∀ k, k + 1 < (granted events).length → p ≤ RandomSource.drawn start k) :
    d.decisions.filter (·.2) = ((granted events).take 1).map (·, true) := by
  have hturns : d.decisions = (granted events).zipIdx.map fun turn =>
      (turn.1, decide (turn.2 = 0)) := by
    rw [h.decisions]
    refine List.map_congr_left fun turn hturn => ?_
    have hlt := (List.getElem?_eq_some_iff.mp (List.mem_zipIdx_iff_getElem?.mp hturn)).1
    rw [RandomSource.refreshesAt_of_le fun j hj => draws j (hj ▸ hlt)]
  rw [hturns]
  rcases granted events with _ | ⟨t, later⟩
  · rfl
  · -- The turns of the others have numbers from 1 on.
    rw [List.zipIdx_cons, List.map_cons, List.filter_cons_of_pos (by simp), List.take_succ_cons,
      List.take_zero, List.map_singleton, List.filter_map]
    refine congrArg _ (List.map_eq_nil_iff.mpr (List.filter_eq_nil_iff.mpr fun turn hturn => ?_))
    have hnumber := List.le_snd_of_mem_zipIdx hturn
    simp only [Function.comp_apply, decide_eq_true_eq]
    omega

end Decided

/-- After every run what has been decided are the turns. -/
theorem run_decided {config : CacheConfig} {source : σ} {catalog : String}
    (h : (new config source catalog).run events = some d) :
    Decided source config.refreshProbability events d := by
  refine run_induction (P := Decided source config.refreshProbability) ⟨rfl, rfl⟩ ?_ h
  intro events d e d' hrun ih hs
  obtain ⟨hconfig, -, hfirst⟩ := run_cache hrun
  exact ih.step hfirst (by rw [hconfig]) hs

/-- Which requests refresh, in every interleaving of enabled and disabled requests, with calls that
bring a listing, fail or never come back, and requests that are dropped at any moment. The first
turn is left exactly until the cache is first granted, so no outcome brings it back; the request
that is granted the cache then refreshes without a draw, every later one makes one draw and
refreshes if that is below the refresh probability, and no other event decides or draws anything
(`Decides`). Only enabled requests are granted the cache, each once; there is one draw less than
there are grants, and the log of decisions is that of the turns.

With draws from `[0, 1)` no request hits if the probability is `1`, and if it is `0` the first turn
is the only refresh. And of two runs in which the same requests are granted the cache in the same
order and with the same draws, what refreshes under the lower probability refreshes under the higher
one. -/
theorem run_decisions (config : CacheConfig) (source : Random.Tallied σ) (catalog : String)
    (events : List Event) (d : Desk (Random.Tallied σ))
    (h : (new config source catalog).run events = some d) :
    (∀ earlier e later, events = earlier ++ e :: later →
      ∃ d₀ d₁, (new config source catalog).run earlier = some d₀ ∧ d₀.step e = some d₁ ∧
        (d₀.cache.firstRun = true ↔ granted earlier = []) ∧
        Decides config.refreshProbability d₀ e d₁) ∧
    (granted events).Nodup ∧ (∀ t ∈ granted events, (modes events)[t]? = some .enabled) ∧
    d.cache.source.units = source.units + ((granted events).length - 1) ∧
    (d.decisions = (granted events).zipIdx.map fun turn =>
      (turn.1, RandomSource.refreshesAt source config.refreshProbability turn.2)) ∧
    ((∀ k, k + 1 < (granted events).length →
        0 ≤ RandomSource.drawn source k ∧ RandomSource.drawn source k < 1) →
      (1 ≤ config.refreshProbability → ∀ t, (t, false) ∉ d.decisions) ∧
      (config.refreshProbability ≤ 0 →
        d.decisions.filter (·.2) = ((granted events).take 1).map (·, true))) ∧
    (∀ (config' : CacheConfig) (source' : Random.Tallied σ) (catalog' : String)
        (events' : List Event) (d' : Desk (Random.Tallied σ)),
      (new config' source' catalog').run events' = some d' →
      granted events' = granted events →
      (∀ k, k + 1 < (granted events).length →
        RandomSource.drawn source' k = RandomSource.drawn source k) →
      config.refreshProbability ≤ config'.refreshProbability →
      ∀ t, (t, true) ∈ d.decisions → (t, true) ∈ d'.decisions) := by
  have hledger := run_ledger h
  have hdecided := run_decided h
  refine ⟨?_, hledger.granted_nodup, hledger.granted_enabled, ?_, hdecided.decisions, ?_, ?_⟩
  · rintro earlier e later rfl
    -- The run up to the event, and the step of the event.
    rw [List.append_cons, run_append, Option.bind_eq_some_iff] at h
    obtain ⟨d₁, h₁, -⟩ := h
    obtain ⟨d₀, h₀, hstep⟩ := foldlM_concat_eq_some.mp h₁
    obtain ⟨hconfig, -, hfirst⟩ := run_cache h₀
    have hdecides := (Step.of_step hstep).decides
    rw [hconfig] at hdecides
    exact ⟨d₀, d₁, h₀, hstep, hfirst, hdecides⟩
  · rw [hdecided.source, RandomSource.units_after]
  · intro draws
    constructor
    · intro hone t ht
      obtain ⟨k, hturn, hhit⟩ := hdecided.mem_decisions.mp ht
      have hlt := (List.getElem?_eq_some_iff.mp hturn).1
      rw [RandomSource.refreshesAt_of_lt fun j hj =>
        Random.lt_of_lt_of_le (draws j (hj ▸ hlt)).2 hone] at hhit
      cases hhit
    · intro hzero
      exact hdecided.filter_of_le fun k hk => Random.le_trans hzero (draws k hk).1
  · intro config' source' catalog' events' d' h' hturns hdraws hle t ht
    obtain ⟨k, hturn, hrefreshes⟩ := hdecided.mem_decisions.mp ht
    have hlt := (List.getElem?_eq_some_iff.mp hturn).1
    refine (run_decided h').mem_decisions.mpr ⟨k, hturns ▸ hturn, ?_⟩
    exact RandomSource.refreshesAt_mono hle (fun j hj => hdraws j (hj ▸ hlt)) hrefreshes

/-- With probability `0` the first of three requests that are granted the cache is the only one that
refreshes, though it is dropped in flight, and with probability `1` all three refresh. A disabled
request and one that leaves the queue draw nothing. -/
theorem run_decisions_of_extremes :
    let source : Random.Tallied Random.Fixed := { source := { units := [0.25, 0.75] } }
    let events : List Event :=
      [.arrive .enabled, .arrive .disabled, .arrive .enabled, .arrive .enabled, .arrive .enabled,
        .grant 2, .answer 1 (.error (.catalogUnavailable "down")), .drop 2, .grant 0, .drop 3,
        .grant 4]
    let events' : List Event :=
      [.arrive .enabled, .arrive .disabled, .arrive .enabled, .arrive .enabled, .arrive .enabled,
        .grant 2, .answer 2 (.ok [⟨"a"⟩]), .grant 0, .answer 0 (.ok [⟨"b"⟩]), .grant 4, .drop 1]
    ∃ d d', (new { refreshProbability := 0 } source "shop").run events = some d ∧
      (new { refreshProbability := 1 } source "shop").run events' = some d' ∧
      granted events' = granted events ∧
      d.cache.source.units = 2 ∧ d.decisions.filter (·.2) = [(2, true)] ∧
      (∀ t, (t, false) ∉ d'.decisions) ∧ (2, true) ∈ d'.decisions := by
  intro source events events'
  obtain ⟨d, hd⟩ : ∃ d, (new { refreshProbability := 0 } source "shop").run events = some d :=
    Option.isSome_iff_exists.mp (by decide +kernel)
  obtain ⟨d', hd'⟩ : ∃ d', (new { refreshProbability := 1 } source "shop").run events' = some d' :=
    Option.isSome_iff_exists.mp (by decide +kernel)
  have hdraws : ∀ k, k + 1 < 3 →
      0 ≤ RandomSource.drawn source k ∧ RandomSource.drawn source k < 1 := by
    intro k hk
    obtain rfl | rfl : k = 0 ∨ k = 1 := by omega
    · decide +kernel
    · decide +kernel
  obtain ⟨-, -, -, hunits, -, hextremes, hmono⟩ := run_decisions _ _ _ _ _ hd
  obtain ⟨-, -, -, -, -, hextremes', -⟩ := run_decisions _ _ _ _ _ hd'
  have hzero := (hextremes hdraws).2 (by decide +kernel)
  refine ⟨d, d', hd, hd', rfl, hunits, hzero, (hextremes' hdraws).1 (by decide +kernel), ?_⟩
  refine hmono _ _ _ _ _ hd' rfl (fun _ _ => rfl) (by decide +kernel) 2 ?_
  exact List.mem_of_mem_filter (by rw [hzero]; exact List.mem_singleton_self _)

end Desk

end Shortlist
