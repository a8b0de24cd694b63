import Shortlist.Proofs.Recommender.Course

/-!
# Recommendations are shortlists

`recommends_shortlists` says what a request for recommendations is answered with, for one request in
any state of a recommender (`Recommender.recommend`) and for any number of them in flight together
(`Reception.run`). The answer follows what the cache has for the request: a fault is passed on, and
a pool is answered with a shortlist of it. How the selector's source is asked is in its tally:
`Tally` says that it was asked once for each answer that holds products, for as many as it holds,
and for no other answer.
-/

namespace Shortlist

/-- How many products were drawn for an answer, unless there were none to draw. -/
def Answer.drawn? : Answer → Option Nat
  | .ok (product :: rest) => some (product :: rest).length
  | _ => none

namespace Selector

variable {τ : Type} [RandomSource τ]

/-- A selection asks its source for as many positions as it then has products. -/
theorem Asks.samples_eq {s s' : Selector (Random.Tallied τ)} {table products : List ProductId}
    (h : s.Asks s' table products) (hτ : RandomSource.Contract τ) :
    s'.source.samples = s.source.samples ∧ Answer.drawn? (.ok products) = none ∨
      ∃ amount, 1 ≤ amount ∧ amount ≤ table.length ∧
        s'.source.samples = (table.length, amount) :: s.source.samples ∧
        Answer.drawn? (.ok products) = some amount := by
  rcases h with ⟨hsource, rfl⟩ | ⟨amount, hpos, hle, hsamples, hread⟩
  · rw [hsource]
    exact Or.inl ⟨rfl, rfl⟩
  · -- As every position was read, there are as many products as positions.
    have hlength := congrArg List.length hread
    rw [List.length_map, List.length_map, (hτ _ _ _ hle).length_eq] at hlength
    refine Or.inr ⟨amount, hpos, hle, hsamples, ?_⟩
    cases products with
    | nil =>
      rw [List.length_nil] at hlength
      omega
    | cons product rest => rw [Answer.drawn?, hlength]

end Selector

namespace Recommender

variable {γ σ κ τ : Type} [RandomSource σ] [Catalog κ] [RandomSource τ]

/-- A request whose pool never comes has no answer. -/
theorem recommend_of_none {r : Recommender γ σ κ τ} {request : Request}
    (h : (r.cache.poolFor r.catalog request.mode).1 = none) :
    (r.recommend request).1 = none ∧ (r.recommend request).2.1.selector = r.selector := by
  unfold recommend
  rcases hpool : r.cache.poolFor r.catalog request.mode with ⟨pool?, cache, catalog, signals⟩
  rw [hpool] at h
  obtain rfl := h
  exact ⟨rfl, rfl⟩

/-- A request whose pool cannot be had is answered with the same fault. -/
theorem recommend_of_error {r : Recommender γ σ κ τ} {request : Request} {fault : Fault}
    (h : (r.cache.poolFor r.catalog request.mode).1 = some (.error fault)) :
    (r.recommend request).1 = some (.error fault) ∧
      (r.recommend request).2.1.selector = r.selector := by
  unfold recommend
  rcases hpool : r.cache.poolFor r.catalog request.mode with ⟨pool?, cache, catalog, signals⟩
  rw [hpool] at h
  obtain rfl := h
  exact ⟨rfl, rfl⟩

/-- A request that has its pool is answered with a selection from it. -/
theorem recommend_of_ok {r : Recommender γ σ κ τ} {request : Request} {pool : List ProductId}
    (h : (r.cache.poolFor r.catalog request.mode).1 = some (.ok pool)) :
    (r.recommend request).1 = some (.ok (r.selector.select pool request.exclude).1.products) ∧
      (r.recommend request).2.1.selector = (r.selector.select pool request.exclude).2 := by
  unfold recommend
  rcases hpool : r.cache.poolFor r.catalog request.mode with ⟨pool?, cache, catalog, signals⟩
  rw [hpool] at h
  obtain rfl := h
  exact ⟨rfl, rfl⟩

end Recommender

namespace Reception

variable {γ σ τ : Type}

/-- How the answers account for what the source was asked. -/
structure Tally (r : Reception γ σ (Random.Tallied τ)) : Prop where
  /-- The source was asked once for each answer that holds products. -/
  amounts : r.selector.source.samples.map (·.2) = r.answered.filterMap (·.2.drawn?)
  /-- It was asked for at least one position and no more than there were candidates. -/
  within : ∀ call ∈ r.selector.source.samples, 1 ≤ call.2 ∧ call.2 ≤ call.1

namespace Tally

variable {r r' : Reception γ σ (Random.Tallied τ)}

/-- An event that asks the source nothing and brings no products keeps the tally. -/
theorem idle (h : Tally r) (samples : r'.selector.source.samples = r.selector.source.samples)
    (answered : r'.answered.filterMap (·.2.drawn?) = r.answered.filterMap (·.2.drawn?)) :
    Tally r' := by
  constructor
  · rw [samples, answered]
    exact h.amounts
  · rw [samples]
    exact h.within

/-- So does one that asks the source once and brings as many products as it was asked for. -/
theorem draw (h : Tally r) {length amount : Nat} (hpos : 1 ≤ amount) (hle : amount ≤ length)
    (samples : r'.selector.source.samples = (length, amount) :: r.selector.source.samples)
    (answered : r'.answered.filterMap (·.2.drawn?) =
      amount :: r.answered.filterMap (·.2.drawn?)) : Tally r' := by
  constructor
  · rw [samples, answered, List.map_cons, h.amounts]
  · rw [samples]
    exact List.forall_mem_cons.mpr ⟨⟨hpos, hle⟩, h.within⟩

end Tally

variable [FlagGate γ] [RandomSource σ] [RandomSource τ]

/-- Every step keeps the tally. -/
theorem Tally.step {r r' : Reception γ σ (Random.Tallied τ)} {event : Event} (h : Tally r)
    (hτ : RandomSource.Contract τ) (hs : Step r event r') : Tally r' := by
  cases hs with
  | @deliver event t e desk n request pool selection selector turn moves asked result selects =>
    have hasks := (r.selector.asks_select hτ pool request.exclude).samples_eq hτ
    rw [selects] at hasks
    rcases hasks with ⟨hsamples, hdrawn⟩ | ⟨amount, hpos, hle, hsamples, hdrawn⟩
    · exact h.idle hsamples (List.filterMap_cons_none hdrawn)
    · exact h.draw hpos hle hsamples (List.filterMap_cons_some hdrawn)
  | _ => exact h.idle rfl rfl

/-- After every run the tally is right. -/
theorem run_tally {gate : γ} {cacheFlag : String} {config : CacheConfig} {source : σ}
    {catalog : String} {count : Nat} {draws : τ} {events : List Event}
    {r : Reception γ σ (Random.Tallied τ)} (hτ : RandomSource.Contract τ)
    (h : (new gate cacheFlag (Desk.new config source catalog)
      { count, source := { source := draws } }).run events = some r) : Tally r := by
  refine run_induction (P := fun _ r => Tally r) ?_ (fun _ ih hs => ih.step hτ hs) h
  exact ⟨rfl, by simp [new]⟩

end Reception

/-- Recommendations are right from end to end, if the selector's source honours its contract. A
request in any state of a recommender fails with the fault that it gets in place of its pool; and if
it gets a pool, it is answered with a list without repeats of ids of that pool, none of them
excluded, as long as was wanted or as there are such ids. The source is asked at most once on the
way, for at least one position and no more than there are candidates, and every position that it
answers is that of a candidate. The same holds of every request of any number that are in flight
together, whatever happens before and after it has gone to the desk; and at any time the source has
been asked once for each answer that holds products, and for no other. -/
theorem recommends_shortlists {γ σ κ τ : Type} [FlagGate γ] [RandomSource σ] [Catalog κ]
    [RandomSource τ] (hτ : RandomSource.Contract τ) :
    (∀ (r : Recommender γ σ κ (Random.Tallied τ)) (request : Request),
      match (r.cache.poolFor r.catalog request.mode).1 with
      | none =>
        (r.recommend request).1 = none ∧ (r.recommend request).2.1.selector = r.selector
      | some (.error fault) =>
        (r.recommend request).1 = some (.error fault) ∧
          (r.recommend request).2.1.selector = r.selector
      | some (.ok pool) => ∃ products,
        (r.recommend request).1 = some (.ok products) ∧
          IsShortlist r.selector.count pool request.exclude products ∧
          r.selector.Asks (r.recommend request).2.1.selector
            (candidates pool request.exclude) products) ∧
    (∀ (gate : γ) (cacheFlag : String) (config : CacheConfig) (source : σ) (catalog : String)
        (count : Nat) (draws : τ) (earlier later : List Reception.Event)
        (r₁ r₂ : Reception γ σ (Random.Tallied τ)),
      (Reception.new gate cacheFlag (Desk.new config source catalog)
        { count, source := { source := draws } }).run earlier = some r₁ →
      r₁.run later = some r₂ →
      (∀ ticket number request, (ticket, number, request) ∈ r₁.atDesk →
        match r₂.desk.result? ticket with
        | none => r₂.result? number = none
        | some (.error fault) => r₂.result? number = some (.error fault)
        | some (.ok pool) => ∃ products,
          r₂.result? number = some (.ok products) ∧
            IsShortlist count pool request.exclude products ∧
            ∃ s s' : Selector (Random.Tallied τ),
              s.Asks s' (candidates pool request.exclude) products) ∧
        r₂.selector.source.samples.map (·.2) = r₂.answered.filterMap (·.2.drawn?) ∧
        ∀ call ∈ r₂.selector.source.samples, 1 ≤ call.2 ∧ call.2 ≤ call.1) := by
  refine ⟨?_, ?_⟩
  · intro r request
    split
    · rename_i hpool
      exact Recommender.recommend_of_none hpool
    · rename_i fault hpool
      exact Recommender.recommend_of_error hpool
    · rename_i pool hpool
      obtain ⟨hanswer, hselector⟩ := Recommender.recommend_of_ok hpool
      rw [hselector]
      exact ⟨_, hanswer, r.selector.isShortlist_select hτ.tallied pool request.exclude,
        r.selector.asks_select hτ pool request.exclude⟩
  · intro gate cacheFlag config source catalog count draws earlier later r₁ r₂ h₁ h₂
    have htally := Reception.run_tally hτ (Reception.run_trans h₁ h₂)
    refine ⟨?_, htally.amounts, htally.within⟩
    intro ticket number request hm
    have hsettled := Reception.run_settled h₁ h₂ hm
    rw [Reception.Settled] at hsettled
    rcases hresult : r₂.desk.result? ticket with _ | fault | pool <;> rw [hresult] at hsettled
    · exact hsettled
    · exact hsettled
    · obtain ⟨s, rfl, hanswer⟩ := hsettled
      exact ⟨_, hanswer, s.isShortlist_select hτ.tallied pool request.exclude,
        s, _, s.asks_select hτ pool request.exclude⟩

/-- A refresh, a hit and a live call that fails, all in flight together; what the first request has
seen is left out of its answer only. -/
theorem recommends_shortlists_of_hit_and_miss :
    ∃ r₁ r₂ : Reception FlagTable Random.Fixed (Random.Tallied Random.Fixed),
      (Reception.new FlagTable.empty "flag"
          (Desk.new { maxEntries := 3 } ({ units := [0.75] } : Random.Fixed) "shop")
          { count := 2, source := { source := { order := .reverse } } }).run
        [.submit ⟨"ann", .ofList [⟨"b"⟩], .enabled⟩, .submit ⟨"bob", ∅, .enabled⟩,
          .submit ⟨"cyd", ∅, .disabled⟩] = some r₁ ∧
      r₁.run [.grant 0, .answer 2 (.error (.catalogUnavailable "down")),
        .answer 0 (.ok [⟨"a"⟩, ⟨"b"⟩, ⟨"a"⟩, ⟨"c"⟩, ⟨"d"⟩]), .grant 1] = some r₂ ∧
      (∃ products, r₂.result? 0 = some (.ok products) ∧
        IsShortlist 2 [⟨"b"⟩, ⟨"c"⟩, ⟨"d"⟩] (.ofList [⟨"b"⟩]) products) ∧
      (∃ products, r₂.result? 1 = some (.ok products) ∧
        IsShortlist 2 [⟨"b"⟩, ⟨"c"⟩, ⟨"d"⟩] ∅ products) ∧
      r₂.result? 2 = some (.error (.catalogUnavailable "down")) ∧
      ∀ call ∈ r₂.selector.source.samples, 1 ≤ call.2 ∧ call.2 ≤ call.1 := by
  obtain ⟨r₁, r₂, h₁, h₂, hdesk, hann, hbob, hcyd⟩ :
      ∃ r₁ r₂ : Reception FlagTable Random.Fixed (Random.Tallied Random.Fixed),
        (Reception.new FlagTable.empty "flag"
            (Desk.new { maxEntries := 3 } ({ units := [0.75] } : Random.Fixed) "shop")
            { count := 2, source := { source := { order := .reverse } } }).run
          [.submit ⟨"ann", .ofList [⟨"b"⟩], .enabled⟩, .submit ⟨"bob", ∅, .enabled⟩,
            .submit ⟨"cyd", ∅, .disabled⟩] = some r₁ ∧
        r₁.run [.grant 0, .answer 2 (.error (.catalogUnavailable "down")),
          .answer 0 (.ok [⟨"a"⟩, ⟨"b"⟩, ⟨"a"⟩, ⟨"c"⟩, ⟨"d"⟩]), .grant 1] = some r₂ ∧
        r₁.atDesk = [(2, 2, ⟨"cyd", ∅, .disabled⟩), (1, 1, ⟨"bob", ∅, .enabled⟩),
          (0, 0, ⟨"ann", .ofList [⟨"b"⟩], .enabled⟩)] ∧
        r₂.desk.result? 0 = some (.ok [⟨"b"⟩, ⟨"c"⟩, ⟨"d"⟩]) ∧
        r₂.desk.result? 1 = some (.ok [⟨"b"⟩, ⟨"c"⟩, ⟨"d"⟩]) ∧
        r₂.desk.result? 2 = some (.error (.catalogUnavailable "down")) :=
    ⟨_, _, rfl, rfl, rfl, by decide +kernel, by decide +kernel, by decide +kernel⟩
  obtain ⟨hanswers, -, hwithin⟩ :=
    (@recommends_shortlists _ _ Catalog.Scripted _ _ _ _ _ Random.Fixed.contract).2
      _ _ _ _ _ _ _ _ _ r₁ r₂ h₁ h₂
  have hann' := hanswers 0 0 ⟨"ann", .ofList [⟨"b"⟩], .enabled⟩ (by rw [hdesk]; simp)
  have hbob' := hanswers 1 1 ⟨"bob", ∅, .enabled⟩ (by rw [hdesk]; simp)
  have hcyd' := hanswers 2 2 ⟨"cyd", ∅, .disabled⟩ (by rw [hdesk]; simp)
  rw [hann] at hann'
  rw [hbob] at hbob'
  rw [hcyd] at hcyd'
  obtain ⟨products, hproducts, hlist, -⟩ := hann'
  obtain ⟨products', hproducts', hlist', -⟩ := hbob'
  exact ⟨r₁, r₂, h₁, h₂, ⟨products, hproducts, hlist⟩, ⟨products', hproducts', hlist'⟩, hcyd',
    hwithin⟩

end Shortlist
