import Shortlist.Cache.Basic
import Shortlist.Proofs.Pool.Merge

/-!
# A request's turn at the cache

What `enter` and `settle` do, told once for all proofs: on a hit nothing but the source moves on, a
miss also spends the first turn, and only a listing that is taken in changes the pool. With that,
`ProductCache.Sound` is kept by both: the pool is consistent and within its bound, and the mirrored
size is the size of the pool.
-/

namespace Shortlist.ProductCache

variable {σ : Type}

section

variable [RandomSource σ]

/-- Deciding whether to refresh moves nothing but the source. -/
theorem refreshes_snd (c : ProductCache σ) :
    c.refreshes.2 = { c with source := c.refreshes.2.source } := by
  unfold refreshes
  split <;> rfl

/-- The first turn is spent on a refresh, and without a draw. -/
theorem refreshes_of_firstRun {c : ProductCache σ} (h : c.firstRun = true) :
    c.refreshes = (true, c) := by
  rw [refreshes, if_pos h]

/-- A turn refreshes when it is the first, or when its draw is below the refresh probability. -/
theorem refreshes_fst_iff (c : ProductCache σ) :
    c.refreshes.1 = true ↔
      c.firstRun = true ∨ (RandomSource.unit c.source).1 < c.config.refreshProbability := by
  unfold refreshes
  split
  · rename_i hfirst
    simp [hfirst]
  · rename_i hspent
    simp [hspent]

/-- A turn makes one draw, unless it is the first. -/
theorem refreshes_source (c : ProductCache σ) :
    c.refreshes.2.source =
      if c.firstRun then c.source else (RandomSource.unit c.source).2 := by
  unfold refreshes
  split <;> rfl

/-- A turn that refreshes holds nothing for the request yet and spends the first turn. -/
theorem enter_of_refresh {c : ProductCache σ} (h : c.refreshes.1 = true) :
    c.enter =
      (none, { c with source := c.refreshes.2.source, firstRun := false }, [.miss]) := by
  have hpair : c.refreshes = (true, { c with source := c.refreshes.2.source }) :=
    Prod.ext h c.refreshes_snd
  unfold enter
  rw [hpair]
  rfl

/-- A turn that does not refresh answers with the pool. -/
theorem enter_of_not_refresh {c : ProductCache σ} (h : c.refreshes.1 = false) :
    c.enter =
      (some c.pool.entries, { c with source := c.refreshes.2.source }, [.hit c.pool.size]) := by
  have hpair : c.refreshes = (false, { c with source := c.refreshes.2.source }) :=
    Prod.ext h c.refreshes_snd
  unfold enter
  rw [hpair]
  rfl

/-- A turn misses exactly if it refreshes. -/
theorem enter_isNone (c : ProductCache σ) : c.enter.1.isNone = c.refreshes.1 := by
  cases hr : c.refreshes.1 with
  | true =>
    rw [enter_of_refresh hr]
    rfl
  | false =>
    rw [enter_of_not_refresh hr]
    rfl

/-- A turn that hit did not refresh. -/
theorem refreshes_of_hit {c c' : ProductCache σ} {ids : List ProductId} {signals : List Signal}
    (h : c.enter = (some ids, c', signals)) : c.refreshes.1 = false := by
  rw [← enter_isNone, h]
  rfl

/-- One that missed did. -/
theorem refreshes_of_miss {c c' : ProductCache σ} {signals : List Signal}
    (h : c.enter = (none, c', signals)) : c.refreshes.1 = true := by
  rw [← enter_isNone, h]
  rfl

/-- What is known when a turn hit: the first turn had been spent, and nothing but the source moves
on. -/
theorem enter_eq_some {c c' : ProductCache σ} {ids : List ProductId} {signals : List Signal}
    (h : c.enter = (some ids, c', signals)) :
    c.firstRun = false ∧ ids = c.pool.entries ∧
      c' = { c with source := c.refreshes.2.source } ∧ signals = [.hit c.pool.size] := by
  cases hr : c.refreshes.1 with
  | true =>
    rw [enter_of_refresh hr] at h
    cases h
  | false =>
    rw [enter_of_not_refresh hr] at h
    cases h
    refine ⟨?_, rfl, rfl, rfl⟩
    -- A first turn would have refreshed.
    rw [Bool.eq_false_iff]
    intro hfirst
    rw [refreshes_of_firstRun hfirst] at hr
    cases hr

/-- What is known when a turn missed: the first turn is spent, and else only the source moves on. -/
theorem enter_eq_none {c c' : ProductCache σ} {signals : List Signal}
    (h : c.enter = (none, c', signals)) :
    c' = { c with source := c.refreshes.2.source, firstRun := false } ∧ signals = [.miss] := by
  cases hr : c.refreshes.1 with
  | true =>
    rw [enter_of_refresh hr] at h
    cases h
    exact ⟨rfl, rfl⟩
  | false =>
    rw [enter_of_not_refresh hr] at h
    cases h

/-- A turn leaves the configuration, the pool and its mirrored size, and spends the first turn. -/
theorem enter_frame (c : ProductCache σ) :
    c.enter.2.1.config = c.config ∧ c.enter.2.1.pool = c.pool ∧ c.enter.2.1.size = c.size ∧
      c.enter.2.1.firstRun = false := by
  rcases henter : c.enter with ⟨_ | ids, c', signals⟩
  · obtain ⟨rfl, -⟩ := enter_eq_none henter
    exact ⟨rfl, rfl, rfl, rfl⟩
  · obtain ⟨hfirst, -, rfl, -⟩ := enter_eq_some henter
    exact ⟨rfl, rfl, rfl, hfirst⟩

end

/-- A failed call leaves the cache as it is. -/
theorem settle_error (c : ProductCache σ) (catalog : String) (fault : Fault) :
    c.settle catalog (.error fault) = (.error fault, c, [.listingFailed catalog fault]) := rfl

/-- A listing is merged, and the size of the pool is mirrored. -/
theorem settle_ok_cache (c : ProductCache σ) (catalog : String) (ids : List ProductId) :
    (c.settle catalog (.ok ids)).2.1 =
      { c with
        pool := (c.pool.merge ids c.config.maxEntries).1
        size := (c.pool.merge ids c.config.maxEntries).1.size } := rfl

/-- An answer of the catalog leaves the configuration, the source and the spent turn. -/
theorem settle_frame (c : ProductCache σ) (catalog : String) (listing : Listing) :
    (c.settle catalog listing).2.1.config = c.config ∧
      (c.settle catalog listing).2.1.source = c.source ∧
      (c.settle catalog listing).2.1.firstRun = c.firstRun := by
  cases listing with
  | error fault => exact ⟨rfl, rfl, rfl⟩
  | ok ids => exact ⟨rfl, rfl, rfl⟩

/-- What holds of a cache between any two events. -/
structure Sound (c : ProductCache σ) : Prop where
  /-- The list and the set of the pool agree. -/
  consistent : c.pool.Consistent
  /-- The pool fits its bound. -/
  bounded : c.pool.size ≤ c.config.maxEntries
  /-- The size that readers see is that of the pool. -/
  mirrored : c.size = c.pool.size

namespace Sound

/-- A new cache is sound, whatever its bound. -/
theorem new (config : CacheConfig) (source : σ) : (new config source).Sound where
  consistent := Pool.consistent_empty
  bounded := Nat.zero_le _
  mirrored := rfl

variable {c : ProductCache σ}

/-- A turn keeps the cache sound. -/
theorem enter [RandomSource σ] (h : c.Sound) : c.enter.2.1.Sound := by
  obtain ⟨hconfig, hpool, hsize, -⟩ := c.enter_frame
  constructor
  · rw [hpool]
    exact h.consistent
  · rw [hpool, hconfig]
    exact h.bounded
  · rw [hpool, hsize]
    exact h.mirrored

/-- An answer of the catalog keeps the cache sound. -/
theorem settle (h : c.Sound) (catalog : String) (listing : Listing) :
    (c.settle catalog listing).2.1.Sound := by
  cases listing with
  | error fault => exact h
  | ok ids =>
    rw [settle_ok_cache]
    constructor
    · exact h.consistent.merge ids _
    · show (c.pool.merge ids c.config.maxEntries).1.size ≤ c.config.maxEntries
      rw [h.consistent.merge_size]
      exact Nat.min_le_left _ _
    · rfl

end Sound

end Shortlist.ProductCache
