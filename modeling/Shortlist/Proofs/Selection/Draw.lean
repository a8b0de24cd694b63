import Mathlib.Data.Finset.Card
import Mathlib.Data.List.Nodup
import Shortlist.Proofs.Product.Arrivals
import Shortlist.Selection

/-!
# What a selection is

A source of draws that honours its contract (`RandomSource.Contract`) makes every selection a
shortlist: products of the pool, none of them excluded and none twice, and as many as were wanted or
as there are (`Selector.isShortlist_select`). The number rests on every position that the source
answers being that of a candidate, for a position out of range would read nothing; and the source is
asked at most once, for at least one position and no more than there are candidates
(`Selector.asks_select`).
-/

namespace Shortlist

/-- Positions drawn without replacement: so many of them, each once, and all in range. -/
structure Random.IsSample (length amount : Nat) (positions : List Nat) : Prop where
  length_eq : positions.length = amount
  nodup : positions.Nodup
  lt_length : ∀ position ∈ positions, position < length

/-- The contract of a source: asked for no more positions than there are, it draws that many. -/
def RandomSource.Contract (τ : Type) [RandomSource τ] : Prop :=
  ∀ (source : τ) (length amount : Nat), amount ≤ length →
    Random.IsSample length amount (RandomSource.sample source length amount).1

namespace Random

/-- In each of its orders a fixed source draws without replacement. -/
theorem Order.isSample_positions (order : Order) {length amount : Nat} (h : amount ≤ length) :
    IsSample length amount (order.positions length amount) := by
  cases order with
  | first =>
    refine ⟨List.length_range, List.nodup_range, ?_⟩
    intro position hposition
    exact Nat.lt_of_lt_of_le (List.mem_range.mp hposition) h
  | last =>
    refine ⟨List.length_range', List.nodup_range', ?_⟩
    intro position hposition
    have hrange := List.mem_range'_1.mp hposition
    omega
  | reverse =>
    refine ⟨by rw [Order.positions, List.length_reverse, List.length_range'],
      List.nodup_reverse.mpr List.nodup_range', ?_⟩
    intro position hposition
    have hrange := List.mem_range'_1.mp (List.mem_reverse.mp hposition)
    omega

/-- A fixed source honours the contract. -/
theorem Fixed.contract : RandomSource.Contract Fixed :=
  fun source _ _ h => source.order.isSample_positions h

end Random

/-- A source that is tallied honours the contract if it does so without the tally. -/
theorem RandomSource.Contract.tallied {τ : Type} [RandomSource τ] (h : Contract τ) :
    Contract (Random.Tallied τ) :=
  fun source length amount hle => h source.source length amount hle

/-! ## Reading a list at positions -/

section

variable {α : Type} {table : List α} {positions : List Nat}

/-- Where all positions are in range, every one of them is read. -/
theorem map_getElem?_eq_map_some (h : ∀ position ∈ positions, position < table.length) :
    positions.map (table[·]?) = (positions.filterMap (table[·]?)).map some := by
  induction positions with
  | nil => rfl
  | cons position rest ih =>
    obtain ⟨hposition, hrest⟩ := List.forall_mem_cons.mp h
    have hread : table[position]? = some table[position] := List.getElem?_eq_getElem hposition
    rw [List.map_cons, List.filterMap_cons_some hread, List.map_cons, hread, ih hrest]

/-- What is read at positions in range is as long as the positions are. -/
theorem length_filterMap_getElem? (h : ∀ position ∈ positions, position < table.length) :
    (positions.filterMap (table[·]?)).length = positions.length := by
  have hlength := congrArg List.length (map_getElem?_eq_map_some h)
  rw [List.length_map, List.length_map] at hlength
  exact hlength.symm

/-- Different positions of a list without repeats are read as different elements. -/
theorem nodup_filterMap_getElem? (htable : table.Nodup) (hpositions : positions.Nodup) :
    (positions.filterMap (table[·]?)).Nodup := by
  refine hpositions.filterMap ?_
  -- Two positions that are read as the same element are the same.
  intro p q a hp hq
  rw [Option.mem_def, List.getElem?_eq_some_iff] at hp hq
  obtain ⟨hplt, hp⟩ := hp
  obtain ⟨hqlt, hq⟩ := hq
  exact (htable.getElem_inj_iff).mp (hp.trans hq.symm)

/-- What is read is in the list. -/
theorem mem_of_mem_filterMap_getElem? {a : α} (h : a ∈ positions.filterMap (table[·]?)) :
    a ∈ table := by
  obtain ⟨position, -, hread⟩ := List.mem_filterMap.mp h
  exact List.mem_of_getElem? hread

end

/-! ## Candidates -/

/-- A candidate is an id of the pool that is not excluded. -/
theorem mem_candidates {pool : List ProductId} {exclude : ProductSet} {id : ProductId} :
    id ∈ candidates pool exclude ↔ id ∈ pool ∧ id ∉ exclude := ProductSet.mem_arrivals

/-- No candidate stands twice. -/
theorem nodup_candidates (pool : List ProductId) (exclude : ProductSet) :
    (candidates pool exclude).Nodup := ProductSet.nodup_arrivals exclude pool

/-- There are as many candidates as distinct ids of the pool that are not excluded. -/
theorem length_candidates (pool : List ProductId) (exclude : ProductSet) :
    (candidates pool exclude).length = (pool.filter (· ∉ exclude)).toFinset.card := by
  rw [← List.toFinset_card_of_nodup (nodup_candidates pool exclude)]
  -- Both are sets of the same ids, though only the candidates are a list without repeats.
  congr 1
  ext id
  rw [List.mem_toFinset, List.mem_toFinset, mem_candidates, List.mem_filter, decide_eq_true_iff]

/-! ## Draws -/

section

variable {τ : Type} [RandomSource τ]

/-- With nothing to draw, the source is left alone. -/
theorem draw_of_amount_eq_zero {table : List ProductId} {count : Nat}
    (h : min count table.length = 0) (source : τ) : draw table count source = ([], source) := by
  rw [draw, if_pos h]

/-- Otherwise the source is asked once and the candidates are read at its positions. -/
theorem draw_of_amount_ne_zero {table : List ProductId} {count : Nat}
    (h : min count table.length ≠ 0) (source : τ) :
    draw table count source =
      ((RandomSource.sample source table.length (min count table.length)).1.filterMap (table[·]?),
        (RandomSource.sample source table.length (min count table.length)).2) := by
  rw [draw, if_neg h]
  simp only [List.getElem?_toArray]

/-- What is drawn are candidates, each once, as many as were wanted or as there are. -/
theorem draw_spec (hτ : RandomSource.Contract τ) {table : List ProductId} (htable : table.Nodup)
    (count : Nat) (source : τ) :
    (draw table count source).1.Nodup ∧ (∀ id ∈ (draw table count source).1, id ∈ table) ∧
      (draw table count source).1.length = min count table.length := by
  by_cases h : min count table.length = 0
  · rw [draw_of_amount_eq_zero h, h]
    exact ⟨List.nodup_nil, by simp, rfl⟩
  · rw [draw_of_amount_ne_zero h]
    have hsample := hτ source table.length _ (Nat.min_le_right count table.length)
    refine ⟨nodup_filterMap_getElem? htable hsample.nodup,
      fun id hid => mem_of_mem_filterMap_getElem? hid, ?_⟩
    rw [length_filterMap_getElem? hsample.lt_length, hsample.length_eq]

end

/-! ## Selections -/

/-- What a request may be answered with, if its pool is `pool`. -/
structure IsShortlist (count : Nat) (pool : List ProductId) (exclude : ProductSet)
    (products : List ProductId) : Prop where
  nodup : products.Nodup
  mem_pool : ∀ id ∈ products, id ∈ pool
  not_mem_exclude : ∀ id ∈ products, id ∉ exclude
  /-- As many as were wanted, or as there are distinct ids that are not excluded. -/
  length_eq : products.length = min count (pool.filter (· ∉ exclude)).toFinset.card

/-- With room for all distinct ids of the pool, a shortlist has all that are not excluded. -/
theorem IsShortlist.mem_iff_of_room {count : Nat} {pool products : List ProductId}
    {exclude : ProductSet} (h : IsShortlist count pool exclude products)
    (room : pool.toFinset.card ≤ count) {id : ProductId} :
    id ∈ products ↔ id ∈ pool ∧ id ∉ exclude := by
  have hsubset : products.toFinset ⊆ (pool.filter (· ∉ exclude)).toFinset := by
    intro id hid
    rw [List.mem_toFinset] at hid
    rw [List.mem_toFinset, List.mem_filter, decide_eq_true_iff]
    exact ⟨h.mem_pool id hid, h.not_mem_exclude id hid⟩
  have hfits : (pool.filter (· ∉ exclude)).toFinset.card ≤ count := by
    refine Nat.le_trans (Finset.card_le_card ?_) room
    intro id hid
    rw [List.mem_toFinset] at hid ⊢
    exact List.mem_of_mem_filter hid
  have hcard : products.toFinset.card = (pool.filter (· ∉ exclude)).toFinset.card := by
    rw [List.toFinset_card_of_nodup h.nodup, h.length_eq, Nat.min_eq_right hfits]
  rw [← List.mem_toFinset, Finset.eq_of_subset_of_card_le hsubset (Nat.le_of_eq hcard.symm),
    List.mem_toFinset, List.mem_filter, decide_eq_true_iff]

namespace Selector

variable {τ : Type} [RandomSource τ]

/-- A selection is a shortlist. -/
theorem isShortlist_select (hτ : RandomSource.Contract τ) (s : Selector τ) (pool : List ProductId)
    (exclude : ProductSet) :
    IsShortlist s.count pool exclude (s.select pool exclude).1.products := by
  obtain ⟨hnodup, hmem, hlength⟩ :=
    draw_spec hτ (nodup_candidates pool exclude) s.count s.source
  rw [length_candidates] at hlength
  exact ⟨hnodup, fun id hid => (mem_candidates.mp (hmem id hid)).1,
    fun id hid => (mem_candidates.mp (hmem id hid)).2, hlength⟩

/-- A product of a selection is of the pool and not excluded, even if the source breaks its
contract. -/
theorem mem_select {s : Selector τ} {pool : List ProductId} {exclude : ProductSet} {id : ProductId}
    (h : id ∈ (s.select pool exclude).1.products) : id ∈ pool ∧ id ∉ exclude := by
  have hdraw : (s.select pool exclude).1.products =
      (draw (candidates pool exclude) s.count s.source).1 := rfl
  rw [hdraw] at h
  by_cases hamount : min s.count (candidates pool exclude).length = 0
  · rw [draw_of_amount_eq_zero hamount] at h
    cases h
  · rw [draw_of_amount_ne_zero hamount] at h
    exact mem_candidates.mp (mem_of_mem_filterMap_getElem? h)

/-- How the source was asked on the way from one selector to the next: not at all where nothing was
drawn; else once, for at least one position and no more than there are candidates, and the products
are the candidates at the positions answered, every one of which is in range. -/
def Asks (s s' : Selector (Random.Tallied τ)) (table products : List ProductId) : Prop :=
  s'.source = s.source ∧ products = [] ∨
    ∃ amount, 1 ≤ amount ∧ amount ≤ table.length ∧
      s'.source.samples = (table.length, amount) :: s.source.samples ∧
      (RandomSource.sample s.source.source table.length amount).1.map (table[·]?) =
        products.map some

/-- A selection asks its source as `Asks` says. -/
theorem asks_select (hτ : RandomSource.Contract τ) (s : Selector (Random.Tallied τ))
    (pool : List ProductId) (exclude : ProductSet) :
    s.Asks (s.select pool exclude).2 (candidates pool exclude)
      (s.select pool exclude).1.products := by
  have hdraw : (s.select pool exclude).1.products =
      (draw (candidates pool exclude) s.count s.source).1 := rfl
  have hsource : (s.select pool exclude).2.source =
      (draw (candidates pool exclude) s.count s.source).2 := rfl
  rw [Asks, hdraw, hsource]
  generalize candidates pool exclude = table
  by_cases h : min s.count table.length = 0
  · rw [draw_of_amount_eq_zero h]
    exact Or.inl ⟨rfl, rfl⟩
  · have hle := Nat.min_le_right s.count table.length
    rw [draw_of_amount_ne_zero h]
    exact Or.inr ⟨_, Nat.one_le_iff_ne_zero.mpr h, hle, rfl,
      map_getElem?_eq_map_some (hτ s.source.source _ _ hle).lt_length⟩

end Selector

end Shortlist
