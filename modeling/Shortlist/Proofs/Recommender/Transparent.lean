import Mathlib.Logic.Function.Iterate
import Shortlist.Proofs.Cache.Serial
import Shortlist.Proofs.Recommender.Recommend

/-!
# The cache cannot be told from its catalog

As long as the catalog keeps answering with one listing (`Catalog.Steady`) whose distinct ids fit
the cache, it makes no difference to a caller whether a request is served live, by a refresh or from
the cache. The live pool is the listing with its repeats; the cached one holds each id once, where
it stands first in the listing, and a further refresh adds nothing to it
(`ProductCache.Filled.serve`). The candidates of both are the same, in the same order
(`candidates_newcomers`), so that the selector draws the same products and goes on with its source
in the same state.

`Recommender.listAll` serves requests one after the other, and `Selector.answerAll` answers them
from the listing itself, with no cache and no flag. `listAll_transparent` says that the first does
as the second, and so that any two recommenders over such catalogs agree on every request.
-/

namespace Shortlist

/-! ## Steady catalogs -/

/-- A catalog all of whose calls come back with the same listing. -/
def Catalog.Steady {κ : Type} [Catalog κ] (catalog : κ) (ids : List ProductId) : Prop :=
  ∀ n, (Catalog.call ((fun c => (Catalog.call c).2)^[n] catalog)).1 = some (.ok ids)

namespace Catalog.Steady

variable {κ : Type} [Catalog κ] {catalog : κ} {ids : List ProductId}

/-- The next call comes back with the listing. -/
theorem answer (h : Steady catalog ids) : (Catalog.call catalog).1 = some (.ok ids) := h 0

/-- And so do all calls after it. -/
theorem called (h : Steady catalog ids) : Steady (Catalog.call catalog).2 ids := by
  intro n
  have hnext := h (n + 1)
  rwa [Function.iterate_succ_apply] at hnext

end Catalog.Steady

/-- A catalog with one answer laid down gives it for ever. -/
theorem Catalog.Scripted.steady (name : String) (ids : List ProductId) (calls : Nat) :
    Catalog.Steady ({ name, answers := [some (.ok ids)], calls } : Catalog.Scripted) ids := by
  intro n
  induction n generalizing calls with
  | zero => rfl
  | succ n ih =>
    rw [Function.iterate_succ_apply]
    exact ih (calls + 1)

/-! ## The distinct ids of a listing -/

/-- Nothing is held by an empty pool, so that all ids of a listing are new to it. -/
theorem newcomers_nil (ids : List ProductId) :
    newcomers [] ids = (ProductSet.arrivals ∅ ids).1 :=
  (Pool.consistent_empty.arrivals_eq_newcomers ids).symm

/-- They are as many as there are distinct ids in the listing. -/
theorem length_newcomers_nil (ids : List ProductId) :
    (newcomers [] ids).length = ids.toFinset.card := by
  have hcandidates : newcomers [] ids = candidates ids ∅ := newcomers_nil ids
  rw [hcandidates, length_candidates]
  congr 2
  simp

/-- The candidates of a listing are those of its distinct ids. -/
theorem candidates_newcomers (ids : List ProductId) (exclude : ProductSet) :
    candidates (newcomers [] ids) exclude = candidates ids exclude := by
  have hnone : ∀ id ∈ (∅ : ProductSet), id ∈ exclude := fun id hid => by simp at hid
  rw [candidates, candidates, newcomers_nil, ProductSet.arrivals_arrivals hnone]

/-- A listing that has been merged brings nothing new. -/
theorem newcomers_self (ids : List ProductId) : newcomers (newcomers [] ids) ids = [] := by
  rw [List.eq_nil_iff_forall_not_mem]
  intro id hid
  obtain ⟨hmem, hnew⟩ := mem_newcomers.mp hid
  exact hnew (mem_newcomers.mpr ⟨hmem, List.not_mem_nil⟩)

/-! ## The cache over a steady catalog -/

namespace ProductCache

variable {σ : Type} {c : ProductCache σ} {ids : List ProductId}

/-- A cache with room for a listing that holds just its distinct ids, or nothing as long as no
request has had a turn. -/
structure Filled (c : ProductCache σ) (ids : List ProductId) : Prop where
  sound : c.Sound
  fits : ids.toFinset.card ≤ c.config.maxEntries
  entries : c.pool.entries = newcomers [] ids ∨ c.firstRun = true ∧ c.pool.entries = []

namespace Filled

/-- A new cache holds nothing yet. -/
theorem new {config : CacheConfig} (fits : ids.toFinset.card ≤ config.maxEntries) (source : σ) :
    (new config source).Filled ids where
  sound := Sound.new config source
  fits := fits
  entries := Or.inr ⟨rfl, rfl⟩

/-- Merging the listing leaves its distinct ids, whether they were there before or not. -/
theorem merge_entries (h : c.Filled ids) :
    (c.pool.merge ids c.config.maxEntries).1.entries = newcomers [] ids := by
  have hgrown : c.pool.entries ++ newcomers c.pool.entries ids = newcomers [] ids := by
    rcases h.entries with hentries | ⟨-, hentries⟩
    · rw [hentries, newcomers_self, List.append_nil]
    · rw [hentries, List.nil_append]
  have hlength : (newcomers [] ids).length - c.config.maxEntries = 0 := by
    rw [length_newcomers_nil]
    exact Nat.sub_eq_zero_of_le h.fits
  rw [h.sound.consistent.merge_entries, hgrown, List.rtake, hlength, List.drop_zero]

variable [RandomSource σ]

/-- A turn at the cache is answered with the distinct ids of the listing, whether it hits or
misses, and the cache holds them afterwards. -/
theorem serve (h : c.Filled ids) (catalog : String) :
    (c.serve catalog (some (.ok ids))).1 = some (.ok (newcomers [] ids)) ∧
      (c.serve catalog (some (.ok ids))).2.1.Filled ids := by
  have hsound := h.sound.enter
  rcases henter : c.enter with ⟨_ | pool, c', signals⟩
  · -- A miss: the listing is merged into the pool, which the turn has left as it was.
    obtain ⟨hc', -⟩ := enter_eq_none henter
    have hconfig : c'.config = c.config := by rw [hc']
    have hpool : c'.pool = c.pool := by rw [hc']
    have hmerged : (c'.pool.merge ids c'.config.maxEntries).1.entries = newcomers [] ids := by
      rw [hpool, hconfig]
      exact h.merge_entries
    rw [henter] at hsound
    rw [serve_of_miss_some henter]
    refine ⟨congrArg (fun entries => some (Except.ok entries)) hmerged, ?_⟩
    constructor
    · exact hsound.settle catalog (.ok ids)
    · exact hconfig ▸ h.fits
    · exact Or.inl hmerged
  · -- A hit: the first turn was spent before, so the pool holds the listing.
    obtain ⟨hfirst, hpool, hc', -⟩ := enter_eq_some henter
    have hentries : c.pool.entries = newcomers [] ids := by
      rcases h.entries with hentries | ⟨hunspent, -⟩
      · exact hentries
      · rw [hfirst] at hunspent
        cases hunspent
    rw [henter] at hsound
    rw [serve_of_hit henter, hpool, hentries]
    refine ⟨rfl, ?_⟩
    constructor
    · exact hsound
    · rw [hc']
      exact h.fits
    · rw [hc']
      exact Or.inl hentries

/-- A request gets the listing or its distinct ids for a pool, by its mode; the cache stays filled
and the catalog steady. -/
theorem poolFor {κ : Type} [Catalog κ] {catalog : κ} (h : c.Filled ids)
    (steady : Catalog.Steady catalog ids) (mode : CacheMode) :
    (∃ pool, (c.poolFor catalog mode).1 = some (.ok pool) ∧
        (pool = ids ∨ pool = newcomers [] ids)) ∧
      (c.poolFor catalog mode).2.1.Filled ids ∧
      Catalog.Steady (c.poolFor catalog mode).2.2.1 ids := by
  have hanswer := steady.answer
  cases mode with
  | disabled => exact ⟨⟨ids, hanswer, Or.inl rfl⟩, h, steady.called⟩
  | enabled =>
    have hserved := h.serve (Catalog.name catalog)
    rw [← hanswer] at hserved
    refine ⟨⟨_, hserved.1, Or.inr rfl⟩, hserved.2, ?_⟩
    -- The catalog has been called if the turn missed.
    show Catalog.Steady (if c.refreshes.1 = true then (Catalog.call catalog).2 else catalog) ids
    split
    · exact steady.called
    · exact steady

end Filled

end ProductCache

/-! ## Requests one after the other -/

/-- A selector depends on its pool through the candidates alone. -/
theorem Selector.select_congr {τ : Type} [RandomSource τ] (s : Selector τ)
    {pool pool' : List ProductId} {exclude : ProductSet}
    (h : candidates pool exclude = candidates pool' exclude) :
    s.select pool exclude = s.select pool' exclude := by
  rw [select, select, h]

/-- Answers requests from one listing, with neither a cache nor a flag: a request that cannot be
read with its fault, any other with products that are drawn from the listing. -/
def Selector.answerAll {τ : Type} [RandomSource τ] (s : Selector τ) (ids : List ProductId) :
    List (String × List String) → List Answer
  | [] => []
  | (user, raws) :: later =>
    match Request.parse user raws with
    | .error fault => .error fault :: s.answerAll ids later
    | .ok request =>
      let (selection, s) := s.select ids request.exclude
      .ok selection.products :: s.answerAll ids later

namespace Recommender

variable {γ σ κ τ : Type} [FlagGate γ] [RandomSource σ] [Catalog κ] [RandomSource τ]

/-- Serves requests one after the other, each given by its user and the texts that name what the
user has seen. -/
def listAll (r : Recommender γ σ κ τ) :
    List (String × List String) → List (Option Answer) × Recommender γ σ κ τ
  | [] => ([], r)
  | (user, raws) :: later =>
    let (answer, r, _) := r.list user raws
    let (answers, r) := r.listAll later
    (answer :: answers, r)

omit [FlagGate γ] in
/-- Serving a request leaves the cache and the catalog where getting its pool leaves them. -/
theorem recommend_frame (r : Recommender γ σ κ τ) (request : Request) :
    (r.recommend request).2.1.cache = (r.cache.poolFor r.catalog request.mode).2.1 ∧
      (r.recommend request).2.1.catalog = (r.cache.poolFor r.catalog request.mode).2.2.1 := by
  unfold recommend
  rcases hpool : r.cache.poolFor r.catalog request.mode with
    ⟨_ | fault | pool, cache, catalog, signals⟩ <;> exact ⟨rfl, rfl⟩

omit [FlagGate γ] in
/-- With the cache filled, whatever its mode, a request is answered with products drawn from the
listing. -/
theorem recommend_of_filled {r : Recommender γ σ κ τ} {ids : List ProductId}
    (filled : r.cache.Filled ids) (steady : Catalog.Steady r.catalog ids) (request : Request) :
    (r.recommend request).1 = some (.ok (r.selector.select ids request.exclude).1.products) ∧
      (r.recommend request).2.1.selector = (r.selector.select ids request.exclude).2 ∧
      (r.recommend request).2.1.cache.Filled ids ∧
      Catalog.Steady (r.recommend request).2.1.catalog ids := by
  obtain ⟨⟨pool, hpool, hlisting⟩, hfilled, hsteady⟩ := filled.poolFor steady request.mode
  obtain ⟨hanswer, hselector⟩ := recommend_of_ok hpool
  obtain ⟨hcache, hcatalog⟩ := r.recommend_frame request
  have hselect : r.selector.select pool request.exclude =
      r.selector.select ids request.exclude := by
    rcases hlisting with rfl | rfl
    · rfl
    · exact r.selector.select_congr (candidates_newcomers ids request.exclude)
  rw [hselect] at hanswer hselector
  exact ⟨hanswer, hselector, hcache ▸ hfilled, hcatalog ▸ hsteady⟩

/-- With the cache filled, requests are answered as from the listing itself. -/
theorem listAll_of_filled {r : Recommender γ σ κ τ} {ids : List ProductId}
    (filled : r.cache.Filled ids) (steady : Catalog.Steady r.catalog ids)
    (requests : List (String × List String)) :
    (r.listAll requests).1 = (r.selector.answerAll ids requests).map some := by
  induction requests generalizing r with
  | nil => rfl
  | cons first later ih =>
    obtain ⟨user, raws⟩ := first
    rw [listAll, Selector.answerAll, list]
    cases hparse : Request.parse user raws with
    | error fault =>
      -- Neither the cache nor the selector is asked for a request that cannot be read.
      exact congrArg (some (.error fault) :: ·) (ih filled steady)
    | ok request =>
      rcases hask : FlagGate.ask r.gate r.cacheFlag false with ⟨enabled, gate, signals⟩
      obtain ⟨hanswer, hselector, hfilled, hsteady⟩ :=
        recommend_of_filled (r := { r with gate }) filled steady
          (request.withMode (.ofBool enabled))
      have hlater := ih hfilled hsteady
      rw [hselector] at hlater
      exact congrArg₂ (· :: ·) hanswer hlater

end Recommender

/-- A gate with answers laid down beforehand, which are given whatever the flag; after them the
default. -/
structure FlagScript where
  answers : List Bool

instance : FlagGate FlagScript where
  name _ := "scripted"
  ask s _ default :=
    match s.answers with
    | [] => (default, s, [])
    | enabled :: later => (enabled, ⟨later⟩, [])

/-- The cache is transparent over a steady catalog. Take two new recommenders that draw products
from sources in the same state; let all calls of their catalogs come back with one listing, and let
its distinct ids fit their caches. Then both give the same answer to each of any list of requests,
in whatever way their gates turn the cache on and off between them, and whatever draws they make
against whatever probability to refresh it: the answer that is drawn from the listing itself. -/
theorem listAll_transparent {γ₁ γ₂ σ₁ σ₂ κ₁ κ₂ τ : Type} [FlagGate γ₁] [FlagGate γ₂]
    [RandomSource σ₁] [RandomSource σ₂] [Catalog κ₁] [Catalog κ₂] [RandomSource τ]
    (ids : List ProductId) (selector : Selector τ) (requests : List (String × List String))
    (gate₁ : γ₁) (gate₂ : γ₂) (flag₁ flag₂ : String) (config₁ config₂ : CacheConfig)
    (source₁ : σ₁) (source₂ : σ₂) (catalog₁ : κ₁) (catalog₂ : κ₂)
    (steady₁ : Catalog.Steady catalog₁ ids) (steady₂ : Catalog.Steady catalog₂ ids)
    (fits₁ : ids.toFinset.card ≤ config₁.maxEntries)
    (fits₂ : ids.toFinset.card ≤ config₂.maxEntries) :
    let r₁ : Recommender γ₁ σ₁ κ₁ τ :=
      { gate := gate₁, cacheFlag := flag₁, cache := .new config₁ source₁, catalog := catalog₁,
        selector }
    let r₂ : Recommender γ₂ σ₂ κ₂ τ :=
      { gate := gate₂, cacheFlag := flag₂, cache := .new config₂ source₂, catalog := catalog₂,
        selector }
    (r₁.listAll requests).1 = (r₂.listAll requests).1 ∧
      (r₁.listAll requests).1 = (selector.answerAll ids requests).map some := by
  intro r₁ r₂
  have h₁ : (r₁.listAll requests).1 = (selector.answerAll ids requests).map some :=
    Recommender.listAll_of_filled (ProductCache.Filled.new fits₁ source₁) steady₁ requests
  have h₂ : (r₂.listAll requests).1 = (selector.answerAll ids requests).map some :=
    Recommender.listAll_of_filled (ProductCache.Filled.new fits₂ source₂) steady₂ requests
  exact ⟨h₁.trans h₂.symm, h₁⟩

/-- A refresh, a live request, a hit, a request that cannot be read and a second refresh on the one
side, live requests only on the other; the listing names an id twice. -/
theorem listAll_transparent_of_mixed_flags :
    let requests := [("ann", ["b"]), ("bob", ["a, c"]), ("cyd", []), ("dan", ["\x01"]), ("eve", [])]
    let selector : Selector Random.Fixed := { count := 2, source := { order := .reverse } }
    let r₁ : Recommender FlagScript Random.Fixed Catalog.Scripted Random.Fixed :=
      { gate := ⟨[true, false, true, true]⟩, cacheFlag := "flag",
        cache := .new { maxEntries := 3 } { units := [0.75, 0.25] },
        catalog := { name := "shop", answers := [some (.ok [⟨"a"⟩, ⟨"b"⟩, ⟨"a"⟩, ⟨"c"⟩])] }
        selector }
    let r₂ : Recommender FlagTable Random.Fixed Catalog.Scripted Random.Fixed :=
      { gate := .empty, cacheFlag := "other",
        cache := .new { maxEntries := 4, refreshProbability := 0 } {},
        catalog := { name := "mall", answers := [some (.ok [⟨"a"⟩, ⟨"b"⟩, ⟨"a"⟩, ⟨"c"⟩])] }
        selector }
    (r₁.listAll requests).1 = (r₂.listAll requests).1 ∧
      (r₁.listAll requests).2.catalog.calls = 3 ∧ (r₂.listAll requests).2.catalog.calls = 4 ∧
      (r₂.listAll requests).1.take 3 =
        [some (.ok [⟨"c"⟩, ⟨"a"⟩]), some (.ok [⟨"b"⟩]), some (.ok [⟨"c"⟩, ⟨"b"⟩])] := by
  intro requests selector r₁ r₂
  have hagree := listAll_transparent [⟨"a"⟩, ⟨"b"⟩, ⟨"a"⟩, ⟨"c"⟩] selector requests
    (⟨[true, false, true, true]⟩ : FlagScript) FlagTable.empty "flag" "other" { maxEntries := 3 }
    { maxEntries := 4, refreshProbability := 0 } ({ units := [0.75, 0.25] } : Random.Fixed)
    ({} : Random.Fixed)
    ({ name := "shop", answers := [some (.ok [⟨"a"⟩, ⟨"b"⟩, ⟨"a"⟩, ⟨"c"⟩])] } : Catalog.Scripted)
    ({ name := "mall", answers := [some (.ok [⟨"a"⟩, ⟨"b"⟩, ⟨"a"⟩, ⟨"c"⟩])] } : Catalog.Scripted)
    (Catalog.Scripted.steady _ _ _) (Catalog.Scripted.steady _ _ _) (by decide) (by decide)
  exact ⟨hagree.1, by decide +kernel, by decide +kernel, by decide +kernel⟩

end Shortlist
