import Shortlist.Proofs.Cache.Merges

/-!
# The cache is a window over its arrivals

Take the arrivals of a run to be one growing list: a successful refresh appends the distinct ids of
its listing that are not among the last `bound` arrivals, and nothing else appends anything. Then
the pool is the last `bound` arrivals (`run_window`), although it is kept by merging and dropping
and never looks at the list; and what the list holds before this window is what has been dropped. An
id that has left the window can arrive again, and a long listing can push out its own ids.
-/

namespace Shortlist

/-- The arrivals under a bound: each listing appends its distinct ids, in the order of their first
occurrence, that are not among the last `bound` arrivals. -/
def arrivalLog (bound : Nat) (listings : List (List ProductId)) : List ProductId :=
  listings.foldl (fun log ids => log ++ newcomers (log.rtake bound) ids) []

theorem arrivalLog_concat (bound : Nat) (listings : List (List ProductId)) (ids : List ProductId) :
    arrivalLog bound (listings ++ [ids]) =
      arrivalLog bound listings ++ newcomers ((arrivalLog bound listings).rtake bound) ids := by
  rw [arrivalLog, List.foldl_append]
  rfl

/-- An arrival was named by one of the listings. -/
theorem exists_mem_of_mem_arrivalLog {bound : Nat} {listings : List (List ProductId)}
    {id : ProductId} (h : id ∈ arrivalLog bound listings) : ∃ ids ∈ listings, id ∈ ids := by
  induction listings using List.reverseRecOn with
  | nil => cases h
  | append_singleton listings ids ih =>
    rw [arrivalLog_concat, List.mem_append] at h
    rcases h with h | h
    · obtain ⟨ids', hids', hid⟩ := ih h
      exact ⟨ids', List.mem_append_left _ hids', hid⟩
    · exact ⟨ids, by simp, (mem_newcomers.mp h).1⟩

/-- The last elements of a list, no more than it has. -/
theorem rtake_min_length {α : Type} (xs : List α) (n : Nat) :
    xs.rtake (min n xs.length) = xs.rtake n := by
  rw [List.rtake, List.rtake]
  congr 1
  omega

namespace Desk

/-- Listings that are merged one after the other leave the last arrivals. -/
theorem mergeAll_entries (bound : Nat) (listings : List (List ProductId)) :
    (mergeAll bound listings).entries = (arrivalLog bound listings).rtake bound := by
  induction listings using List.reverseRecOn with
  | nil =>
    rw [arrivalLog, List.foldl_nil, List.rtake_nil]
    rfl
  | append_singleton listings ids ih =>
    rw [mergeAll_concat, (consistent_mergeAll bound listings).merge_entries, ih, arrivalLog_concat,
      rtake_append_rtake]

/-- The pool has as many ids as there are arrivals, up to the bound. -/
theorem mergeAll_size (bound : Nat) (listings : List (List ProductId)) :
    (mergeAll bound listings).size = min bound (arrivalLog bound listings).length := by
  rw [Pool.size, mergeAll_entries, List.rtake, List.length_drop]
  omega

/-- There are as many arrivals as the merges have appended ids. -/
theorem length_arrivalLog (bound : Nat) (listings : List (List ProductId)) :
    (arrivalLog bound listings).length =
      ((mergeOutcomes bound .empty listings).map (·.added)).sum := by
  induction listings using List.reverseRecOn with
  | nil => rfl
  | append_singleton listings ids ih =>
    have hadded := (consistent_mergeAll bound listings).merge_added ids bound
    rw [arrivalLog_concat, List.length_append, ih, mergeOutcomes_concat, List.map_append,
      List.sum_append, List.map_singleton, List.sum_singleton, hadded, mergeAll_entries]

variable {σ : Type} [RandomSource σ]

/-- The evictions of a run and the ids that are left are the arrivals. -/
theorem run_evictions {config : CacheConfig} {source : σ} {catalog : String}
    {events : List Event} {d : Desk σ} (h : (new config source catalog).run events = some d) :
    (Metrics.ofSignals d.signals).value .cacheEvictions + d.cache.pool.size =
      (arrivalLog config.maxEntries (refreshes events)).length := by
  rw [run_evicted h, run_pool h, length_arrivalLog, sum_added_mergeOutcomes]

/-- No step makes the pool smaller. -/
theorem Step.size_le {d d' : Desk σ} {e : Event} (hs : Step d e d') (hsound : d.cache.Sound) :
    d.cache.pool.size ≤ d'.cache.pool.size := by
  rcases hs.cache_cases with ⟨t, -, hc⟩ | ⟨t, listing, -, -, hc⟩ | ⟨-, hc⟩
  · rw [hc, d.cache.enter_frame.2.1]
  · cases listing with
    | error fault => rw [hc, ProductCache.settle_error]
    | ok ids =>
      have hbounded := hsound.bounded
      have hsize := hsound.consistent.merge_size ids d.cache.config.maxEntries
      rw [hc, ProductCache.settle_ok_cache]
      show d.cache.pool.size ≤ (d.cache.pool.merge ids d.cache.config.maxEntries).1.size
      omega
  · rw [hc]

/-- The pool never gets smaller along a run. -/
theorem run_size_le {config : CacheConfig} {source : σ} {catalog : String}
    {earlier later : List Event} {d₁ d₂ : Desk σ}
    (h₁ : (new config source catalog).run earlier = some d₁) (h₂ : d₁.run later = some d₂) :
    d₁.cache.pool.size ≤ d₂.cache.pool.size := by
  refine run_induction (P := fun _ d => d₁.cache.pool.size ≤ d.cache.pool.size)
    (Nat.le_refl _) ?_ h₂
  intro events d e d' hrun hle hs
  have hreached : (new config source catalog).run (earlier ++ events) = some d := by
    rw [run_append, h₁]
    exact hrun
  exact Nat.le_trans hle (hs.size_le (run_cache hreached).2.1)

/-- The cache is a first-in first-out window over its arrivals. After every run, the pool is the
last `min bound n` of the `n` arrivals that the successful refreshes of the run make, in their
order, and the ids evicted so far are as many as the others; the pool was never larger before, and
full if it was full; and each of its ids was named by a listing that came back to an enabled
request. -/
theorem run_window (config : CacheConfig) (source : σ) (catalog : String) (events : List Event)
    (d : Desk σ) (h : (new config source catalog).run events = some d) :
    let log := arrivalLog config.maxEntries (refreshes events)
    d.cache.pool.entries = log.rtake (min config.maxEntries log.length) ∧
      (Metrics.ofSignals d.signals).value .cacheEvictions =
        log.length - min config.maxEntries log.length ∧
      (∀ (earlier later : List Event) (d₁ : Desk σ), events = earlier ++ later →
        (new config source catalog).run earlier = some d₁ →
        d₁.cache.pool.size ≤ d.cache.pool.size ∧
          (d₁.cache.pool.size = config.maxEntries → d.cache.pool.size = config.maxEntries)) ∧
      (∀ id ∈ d.cache.pool.entries, ∃ t ids, .answer t (.ok ids) ∈ events ∧
        (modes events)[t]? = some .enabled ∧ id ∈ ids) := by
  intro log
  obtain ⟨hconfig, hsound, -⟩ := run_cache h
  have hwindow : d.cache.pool.entries = log.rtake config.maxEntries := by
    rw [run_pool h, mergeAll_entries]
  have hsize : d.cache.pool.size = min config.maxEntries log.length := by
    rw [run_pool h, mergeAll_size]
  refine ⟨by rw [hwindow, rtake_min_length], ?_, ?_, ?_⟩
  · -- What has been evicted and what is left are all arrivals.
    have htotal : _ + _ = log.length := run_evictions h
    omega
  · rintro earlier later d₁ rfl h₁
    rw [run_append, h₁] at h
    have hle := run_size_le h₁ h
    have hbounded := hsound.bounded
    rw [hconfig] at hbounded
    exact ⟨hle, by omega⟩
  · -- An id of the window is an arrival, and an arrival was named by a refresh.
    intro id hid
    rw [hwindow] at hid
    obtain ⟨ids, hids, hmem⟩ := exists_mem_of_mem_arrivalLog (List.mem_of_mem_drop hid)
    obtain ⟨t, hanswer, hmode⟩ := mem_refreshes.mp hids
    exact ⟨t, ids, hanswer, hmode, hmem⟩

/-- A refresh that pushes out an id of its own listing, a disabled call beside it, and a second
refresh that brings this id back and pushes out another. -/
theorem run_window_of_returning_id :
    ∃ d, (new { maxEntries := 2, refreshProbability := 0.5 }
        ({ units := [0.25] } : Random.Fixed) "shop").run
          [.arrive .enabled, .arrive .disabled, .grant 0,
            .answer 0 (.ok [⟨"a"⟩, ⟨"b"⟩, ⟨"a"⟩, ⟨"c"⟩]), .answer 1 (.ok [⟨"z"⟩]),
            .arrive .enabled, .grant 2, .answer 2 (.ok [⟨"a"⟩, ⟨"c"⟩])] = some d ∧
      arrivalLog 2 (refreshes
          [.arrive .enabled, .arrive .disabled, .grant 0,
            .answer 0 (.ok [⟨"a"⟩, ⟨"b"⟩, ⟨"a"⟩, ⟨"c"⟩]), .answer 1 (.ok [⟨"z"⟩]),
            .arrive .enabled, .grant 2, .answer 2 (.ok [⟨"a"⟩, ⟨"c"⟩])]) =
        [⟨"a"⟩, ⟨"b"⟩, ⟨"c"⟩, ⟨"a"⟩] ∧
      d.cache.pool.entries = [⟨"c"⟩, ⟨"a"⟩] ∧
      (Metrics.ofSignals d.signals).value .cacheEvictions = 2 := by
  obtain ⟨d, hd⟩ : ∃ d, (new { maxEntries := 2, refreshProbability := 0.5 }
      ({ units := [0.25] } : Random.Fixed) "shop").run
        [.arrive .enabled, .arrive .disabled, .grant 0,
          .answer 0 (.ok [⟨"a"⟩, ⟨"b"⟩, ⟨"a"⟩, ⟨"c"⟩]), .answer 1 (.ok [⟨"z"⟩]),
          .arrive .enabled, .grant 2, .answer 2 (.ok [⟨"a"⟩, ⟨"c"⟩])] = some d := ⟨_, rfl⟩
  have hlog : arrivalLog 2 (refreshes
      [.arrive .enabled, .arrive .disabled, .grant 0,
        .answer 0 (.ok [⟨"a"⟩, ⟨"b"⟩, ⟨"a"⟩, ⟨"c"⟩]), .answer 1 (.ok [⟨"z"⟩]),
        .arrive .enabled, .grant 2, .answer 2 (.ok [⟨"a"⟩, ⟨"c"⟩])]) =
      [⟨"a"⟩, ⟨"b"⟩, ⟨"c"⟩, ⟨"a"⟩] := by decide +kernel
  obtain ⟨hwindow, hevicted, -, -⟩ := run_window _ _ _ _ d hd
  rw [hlog] at hwindow hevicted
  exact ⟨d, hd, hlog, hwindow, hevicted⟩

end Desk

end Shortlist
