import Shortlist.Proofs.Cache.Serial
import Shortlist.Proofs.Exclusions.Reading
import Shortlist.Proofs.Recommender.Recommend

/-!
# Requests that are served one at a time

What `Recommender.list` does, step by step: a request that is malformed leaves everything as it was,
and for any other the gate is asked and its pool got. Whether the pool takes a catalog call is known
before (`Recommender.calls`): if it does, the request fails exactly if the call does, and if it does
not, the request is answered from what the cache holds. No product of an answer is excluded
(`list_excludes`), whatever the sources of draws do.
-/

namespace Shortlist

namespace ProductCache

variable {σ κ : Type} [RandomSource σ]

/-- Whether the pool of a request takes a catalog call: unless the cache is enabled for it and its
turn will hit. -/
def calls (c : ProductCache σ) : CacheMode → Bool
  | .disabled => true
  | .enabled => c.refreshes.1

variable [Catalog κ] {c : ProductCache σ} {mode : CacheMode} {catalog : κ}

/-- A pool that takes no call is what the cache holds. -/
theorem poolFor_of_held (h : c.calls mode = false) (catalog : κ) :
    (c.poolFor catalog mode).1 = some (.ok c.pool.entries) := by
  cases mode with
  | disabled => cases h
  | enabled =>
    show (c.serve _ _).1 = _
    rw [serve_of_hit (enter_of_not_refresh h)]

/-- One that takes a call cannot be had if that fails. -/
theorem poolFor_of_failed (h : c.calls mode = true) {fault : Fault}
    (failed : (Catalog.call catalog).1 = some (.error fault)) :
    (c.poolFor catalog mode).1 = some (.error fault) := by
  cases mode with
  | disabled => exact failed
  | enabled =>
    show (c.serve _ (Catalog.call catalog).1).1 = _
    rw [failed, serve_of_miss_some (enter_of_refresh h), settle_error]

/-- And it can if the call brings a listing; a live pool is that listing. -/
theorem poolFor_of_listed (h : c.calls mode = true) {ids : List ProductId}
    (listed : (Catalog.call catalog).1 = some (.ok ids)) :
    ∃ pool, (c.poolFor catalog mode).1 = some (.ok pool) ∧ (mode = .disabled → pool = ids) := by
  cases mode with
  | disabled => exact ⟨ids, listed, fun _ => rfl⟩
  | enabled =>
    refine ⟨(c.pool.merge ids c.config.maxEntries).1.entries, ?_, by simp⟩
    show (c.serve _ (Catalog.call catalog).1).1 = _
    rw [listed, serve_of_miss_some (enter_of_refresh h)]
    rfl

end ProductCache

namespace Recommender

variable {γ σ κ τ : Type} [FlagGate γ]

/-- The mode that the gate decides for the next request. -/
def nextMode (r : Recommender γ σ κ τ) : CacheMode :=
  .ofBool (FlagGate.ask r.gate r.cacheFlag false).1

/-- The recommender after the gate has been asked for the next request. -/
def asked (r : Recommender γ σ κ τ) : Recommender γ σ κ τ :=
  { r with gate := (FlagGate.ask r.gate r.cacheFlag false).2.1 }

/-- The next request as it is served, with the mode that the gate decides. -/
def served (r : Recommender γ σ κ τ) (user : String) (exclude : ProductSet) : Request :=
  { user, exclude, mode := r.nextMode }

/-- Whether the next request will take a catalog call, unless it is malformed. -/
def calls [RandomSource σ] (r : Recommender γ σ κ τ) : Bool := r.cache.calls r.nextMode

variable [RandomSource σ] [Catalog κ] [RandomSource τ] {r : Recommender γ σ κ τ} {user : String}
  {raws : List String}

omit [FlagGate γ] in
/-- Serving a request does not ask the gate. -/
theorem recommend_gate (r : Recommender γ σ κ τ) (request : Request) :
    (r.recommend request).2.1.gate = r.gate := by
  unfold recommend
  rcases hpool : r.cache.poolFor r.catalog request.mode with
    ⟨_ | fault | pool, cache, catalog, signals⟩ <;> rfl

omit [FlagGate γ] in
/-- Nor does its answer depend on the gate. -/
theorem recommend_fst_congr {γ' : Type} (r : Recommender γ σ κ τ) (r' : Recommender γ' σ κ τ)
    (cache : r'.cache = r.cache) (catalog : r'.catalog = r.catalog)
    (selector : r'.selector = r.selector) (request : Request) :
    (r'.recommend request).1 = (r.recommend request).1 := by
  unfold recommend
  rw [cache, catalog, selector]
  rcases hpool : r.cache.poolFor r.catalog request.mode with
    ⟨_ | fault | pool, cache, catalog, signals⟩ <;> rfl

/-- A malformed request is refused, and nothing else happens. -/
theorem list_of_malformed (h : Exclusions.Malformed raws) (r : Recommender γ σ κ τ)
    (user : String) :
    ∃ text, r.list user raws = (some (.error (.malformedInput text)), r, []) := by
  obtain ⟨text, hparse⟩ := Request.parse_of_malformed h user
  exact ⟨text, by rw [list, hparse]⟩

/-- Any other is served with the mode that the gate decides. -/
theorem list_of_not_malformed (h : ¬ Exclusions.Malformed raws) (r : Recommender γ σ κ τ)
    (user : String) :
    ∃ exclude, Exclusions.parse raws = .ok exclude ∧
      r.list user raws =
        ((r.asked.recommend (r.served user exclude)).1,
          (r.asked.recommend (r.served user exclude)).2.1,
          (FlagGate.ask r.gate r.cacheFlag false).2.2 ++
            (r.asked.recommend (r.served user exclude)).2.2) := by
  obtain ⟨exclude, hread, hparse⟩ := Request.parse_of_not_malformed h user
  refine ⟨exclude, hread, ?_⟩
  rw [list, hparse]
  rfl

/-- A request that takes no call is answered. -/
theorem list_of_held (h : ¬ Exclusions.Malformed raws) (held : r.calls = false)
    (user : String) : ∃ products, (r.list user raws).1 = some (.ok products) := by
  obtain ⟨exclude, -, hlist⟩ := list_of_not_malformed h r user
  have hpool : (r.asked.cache.poolFor r.asked.catalog (r.served user exclude).mode).1 =
      some (.ok r.cache.pool.entries) := ProductCache.poolFor_of_held held r.catalog
  rw [hlist]
  exact ⟨_, (recommend_of_ok hpool).1⟩

/-- One that takes a call fails with it. -/
theorem list_of_failed (h : ¬ Exclusions.Malformed raws) (calls : r.calls = true) {fault : Fault}
    (failed : (Catalog.call r.catalog).1 = some (.error fault)) (user : String) :
    (r.list user raws).1 = some (.error fault) := by
  obtain ⟨exclude, -, hlist⟩ := list_of_not_malformed h r user
  have hpool : (r.asked.cache.poolFor r.asked.catalog (r.served user exclude).mode).1 =
      some (.error fault) := ProductCache.poolFor_of_failed calls failed
  rw [hlist]
  exact (recommend_of_error hpool).1

/-- And it is answered if the call brings a listing, from that listing if the cache is disabled. -/
theorem list_of_listed (h : ¬ Exclusions.Malformed raws) (calls : r.calls = true)
    {ids : List ProductId} (listed : (Catalog.call r.catalog).1 = some (.ok ids))
    (user : String) :
    ∃ exclude pool, Exclusions.parse raws = .ok exclude ∧
      (r.list user raws).1 = some (.ok (r.selector.select pool exclude).1.products) ∧
      (r.nextMode = .disabled → pool = ids) := by
  obtain ⟨exclude, hread, hlist⟩ := list_of_not_malformed h r user
  obtain ⟨pool, hpool, hlive⟩ := ProductCache.poolFor_of_listed calls listed
  have hpool' : (r.asked.cache.poolFor r.asked.catalog (r.served user exclude).mode).1 =
      some (.ok pool) := hpool
  rw [hlist]
  exact ⟨exclude, pool, hread,
    (recommend_of_ok hpool').1, hlive⟩

/-- No product of an answer is excluded. -/
theorem list_excludes {products : List ProductId}
    (h : (r.list user raws).1 = some (.ok products)) :
    ∃ exclude, Exclusions.parse raws = .ok exclude ∧ ∀ id ∈ products, id ∉ exclude := by
  by_cases hmalformed : Exclusions.Malformed raws
  · obtain ⟨text, hlist⟩ := list_of_malformed hmalformed r user
    rw [hlist] at h
    cases h
  · obtain ⟨exclude, hread, hlist⟩ := list_of_not_malformed hmalformed r user
    refine ⟨exclude, hread, ?_⟩
    rw [hlist] at h
    -- Only a request that has its pool has an answer, and that is drawn from the pool.
    rcases hpool : (r.asked.cache.poolFor r.asked.catalog (r.served user exclude).mode).1 with
      _ | fault | pool
    · rw [(recommend_of_none hpool).1] at h
      cases h
    · rw [(recommend_of_error hpool).1] at h
      cases h
    · rw [(recommend_of_ok hpool).1] at h
      obtain rfl := Except.ok.inj (Option.some.inj h)
      exact fun id hid => (Selector.mem_select hid).2

/-- A live answer with room for the whole listing names all of it but what is excluded. -/
theorem list_of_live (hτ : RandomSource.Contract τ) (h : ¬ Exclusions.Malformed raws)
    (live : r.nextMode = .disabled) {ids : List ProductId}
    (listed : (Catalog.call r.catalog).1 = some (.ok ids))
    (room : ids.toFinset.card ≤ r.selector.count) (user : String) :
    ∃ exclude products, Exclusions.parse raws = .ok exclude ∧
      (r.list user raws).1 = some (.ok products) ∧
      ∀ id, id ∈ products ↔ id ∈ ids ∧ id ∉ exclude := by
  have hcalls : r.calls = true := by
    rw [calls, live]
    rfl
  obtain ⟨exclude, pool, hread, hanswer, hpool⟩ := list_of_listed h hcalls listed user
  obtain rfl := hpool live
  exact ⟨exclude, _, hread, hanswer, fun id =>
    (r.selector.isShortlist_select hτ pool exclude).mem_iff_of_room room⟩

/-! ## What the gate is asked -/

/-- The recommender with a gate that notes what it is asked from now on. -/
def noted (r : Recommender γ σ κ τ) : Recommender (Flags.Noted γ) σ κ τ :=
  { r with gate := { gate := r.gate } }

/-- The gate is not asked for a malformed request. -/
theorem noted_list_of_malformed (h : Exclusions.Malformed raws) (r : Recommender γ σ κ τ)
    (user : String) : (r.noted.list user raws).2.1.gate.asked = [] := by
  obtain ⟨text, hlist⟩ := list_of_malformed h r.noted user
  rw [hlist]
  rfl

/-- For any other it is asked once, with the default `false`; and to note this changes no answer. -/
theorem noted_list_of_not_malformed (h : ¬ Exclusions.Malformed raws) (r : Recommender γ σ κ τ)
    (user : String) :
    (r.noted.list user raws).2.1.gate.asked = [(r.cacheFlag, false)] ∧
      (r.noted.list user raws).1 = (r.list user raws).1 := by
  obtain ⟨exclude, hread, hlist⟩ := list_of_not_malformed h r user
  obtain ⟨exclude', hread', hnoted⟩ := list_of_not_malformed h r.noted user
  obtain rfl := Except.ok.inj (hread.symm.trans hread')
  rw [hlist, hnoted]
  refine ⟨by rw [recommend_gate]; rfl, ?_⟩
  exact recommend_fst_congr r.asked r.noted.asked rfl rfl rfl _

end Recommender

end Shortlist
