import Shortlist.Proofs.Cache.Ledger
import Shortlist.Proofs.Cache.Turn

/-!
# What holds of a cache in every reachable state

`run_invariants` states the invariants of the cache over every interleaving of requests on it. Those
of the pool are `ProductCache.Sound`, which a turn and an answer of the catalog keep; since every
step enters the cache, settles a refresh or leaves the cache alone (`Step.cache_cases`), the desk
keeps them too (`run_cache`). Those of the lock are in the `Ledger` of the run.
-/

namespace Shortlist.Desk

variable {σ : Type} [RandomSource σ]

/-- A step grants the cache, takes in an answer for its holder, or leaves the cache alone. -/
theorem Step.cache_cases {d d' : Desk σ} {e : Event} (hs : Step d e d') :
    (∃ ticket, e = .grant ticket ∧ d'.cache = d.cache.enter.2.1) ∨
      (∃ ticket listing, e = .answer ticket listing ∧ (ticket, .enabled) ∈ d.calling ∧
        d'.cache = (d.cache.settle d.catalog listing).2.1) ∨
      ((∀ ticket, e ≠ .grant ticket) ∧ d'.cache = d.cache) := by
  cases hs with
  | hit waits free enters => exact Or.inl ⟨_, rfl, by rw [enters]⟩
  | miss waits free enters => exact Or.inl ⟨_, rfl, by rw [enters]⟩
  | settle listing calls => exact Or.inr (Or.inl ⟨_, _, rfl, calls, rfl⟩)
  | _ => exact Or.inr (Or.inr ⟨by simp, rfl⟩)

/-- After every run the cache has its configuration, is sound, and has its first turn left exactly
if it has not been granted to a request. -/
theorem run_cache {config : CacheConfig} {source : σ} {catalog : String} {events : List Event}
    {d : Desk σ} (h : (new config source catalog).run events = some d) :
    d.cache.config = config ∧ d.cache.Sound ∧
      (d.cache.firstRun = true ↔ granted events = []) := by
  refine run_induction (P := fun events d => d.cache.config = config ∧ d.cache.Sound ∧
    (d.cache.firstRun = true ↔ granted events = [])) ?_ ?_ h
  · exact ⟨rfl, ProductCache.Sound.new config source, by simp [new, ProductCache.new, granted]⟩
  · rintro events d e d' - ⟨hconfig, hsound, hfirst⟩ hs
    rcases hs.cache_cases with ⟨t, rfl, hc⟩ | ⟨t, listing, rfl, -, hc⟩ | ⟨hother, hc⟩
    · -- A grant spends the first turn, whether it hits or misses.
      obtain ⟨hconfig', -, -, hfirst'⟩ := d.cache.enter_frame
      refine ⟨by rw [hc, hconfig', hconfig], hc ▸ hsound.enter, ?_⟩
      rw [hc, hfirst', granted_concat_grant]
      simp
    · obtain ⟨hconfig', -, hfirst'⟩ := d.cache.settle_frame d.catalog listing
      refine ⟨by rw [hc, hconfig', hconfig], hc ▸ hsound.settle d.catalog listing, ?_⟩
      rw [hc, hfirst', granted_concat_of_ne (by simp), hfirst]
    · rw [hc, granted_concat_of_ne hother]
      exact ⟨hconfig, hsound, hfirst⟩

omit [RandomSource σ] in
/-- At most one refresh is in flight. -/
theorem Ledger.fetching_length_le_one {events : List Event} {d : Desk σ} (h : Ledger events d) :
    (d.calling.filter (·.2 = .enabled)).length ≤ 1 := by
  have hnodup := h.calling_nodup.filter (·.2 = .enabled)
  have heq : ∀ c ∈ d.calling.filter (·.2 = .enabled), ∀ c' ∈ d.calling.filter (·.2 = .enabled),
      c = c' := by
    rintro ⟨t, m⟩ hc ⟨t', m'⟩ hc'
    obtain ⟨hc, rfl⟩ : (t, m) ∈ d.calling ∧ m = .enabled := by simpa using hc
    obtain ⟨hc', rfl⟩ : (t', m') ∈ d.calling ∧ m' = .enabled := by simpa using hc'
    rw [h.eq_of_fetching hc hc']
  -- Two calls in the list would be the same one twice.
  rcases hlist : d.calling.filter (·.2 = .enabled) with _ | ⟨c, _ | ⟨c', rest⟩⟩
  · rw [hlist]
    exact Nat.zero_le _
  · rw [hlist]
    exact Nat.le_refl _
  · rw [hlist] at hnodup heq
    have hsame := heq c (by simp) c' (by simp)
    exact absurd (hsame ▸ List.mem_cons_self) (List.nodup_cons.mp hnodup).1

/-- In every state that a new cache can reach, by whatever interleaving of enabled and disabled
requests, of calls that bring a listing, fail or never come back, and of requests that are dropped:
the pool has no id twice, its set holds exactly its ids, and it fits the bound; the size that
readers see is that of the pool; at most one refresh is in flight, the cache is held exactly by the
request that refreshes it, and never by one that has been answered or dropped; and the first turn is
left exactly if the cache has been granted to no request. -/
theorem run_invariants (config : CacheConfig) (source : σ) (catalog : String)
    (events : List Event) (d : Desk σ) (h : (new config source catalog).run events = some d) :
    d.cache.pool.entries.Nodup ∧
      (∀ id, id ∈ d.cache.pool.members ↔ id ∈ d.cache.pool.entries) ∧
      d.cache.pool.size ≤ config.maxEntries ∧
      d.cache.size = d.cache.pool.size ∧
      (d.calling.filter (·.2 = .enabled)).length ≤ 1 ∧
      (∀ t, d.lock = some t ↔ (t, .enabled) ∈ d.calling) ∧
      (∀ t, d.lock = some t →
        d.result? t = none ∧ .drop t ∉ events ∧ ∀ listing, .answer t listing ∉ events) ∧
      (d.cache.firstRun = true ↔ ∀ t, .grant t ∉ events) := by
  have hledger := run_ledger h
  obtain ⟨hconfig, hsound, hfirst⟩ := run_cache h
  refine ⟨hsound.consistent.nodup, hsound.consistent.mem_members, hconfig ▸ hsound.bounded,
    hsound.mirrored, hledger.fetching_length_le_one, hledger.lock, ?_, ?_⟩
  · intro t ht
    have hcall := (hledger.lock t).mp ht
    -- Its trail is its grant alone, so it has been neither answered nor dropped.
    have htrail : trail events t = [.grant t] := (hledger.calling t _ hcall).2
    refine ⟨hledger.unanswered t (Or.inr hcall), ?_, ?_⟩
    · intro hdrop
      have hmem := (mem_trail rfl).mpr hdrop
      rw [htrail] at hmem
      simp at hmem
    · intro listing hanswer
      have hmem := (mem_trail rfl).mpr hanswer
      rw [htrail] at hmem
      simp at hmem
  · rw [hfirst, List.eq_nil_iff_forall_not_mem]
    exact forall_congr' fun t => not_congr mem_granted

/-- A first refresh that is dropped in flight while another request waits, a disabled call that
comes back meanwhile, a second refresh that evicts an id of its own batch, and a third that still
holds the cache. -/
theorem run_invariants_of_three_refreshes :
    ∃ d, (new { maxEntries := 2, refreshProbability := 0.5 }
        ({ units := [0.25, 0.125] } : Random.Fixed) "shop").run
          [.arrive .enabled, .arrive .enabled, .arrive .disabled, .grant 0,
            .answer 2 (.ok [⟨"a"⟩]), .drop 0, .grant 1, .arrive .enabled,
            .answer 1 (.ok [⟨"a"⟩, ⟨"b"⟩, ⟨"a"⟩, ⟨"c"⟩]), .grant 3] = some d ∧
      d.lock = some 3 ∧ d.cache.pool.entries = [⟨"b"⟩, ⟨"c"⟩] ∧
      d.cache.pool.entries.Nodup ∧ d.cache.pool.size ≤ 2 ∧
      (∀ t, d.lock = some t → d.result? t = none) := by
  have hrun := run_invariants { maxEntries := 2, refreshProbability := 0.5 }
    ({ units := [0.25, 0.125] } : Random.Fixed) "shop"
    [.arrive .enabled, .arrive .enabled, .arrive .disabled, .grant 0,
      .answer 2 (.ok [⟨"a"⟩]), .drop 0, .grant 1, .arrive .enabled,
      .answer 1 (.ok [⟨"a"⟩, ⟨"b"⟩, ⟨"a"⟩, ⟨"c"⟩]), .grant 3] _ rfl
  obtain ⟨hnodup, -, hbound, -, -, -, hlock, -⟩ := hrun
  exact ⟨_, rfl, rfl, by decide +kernel, hnodup, hbound, fun t ht => (hlock t ht).1⟩

end Shortlist.Desk
