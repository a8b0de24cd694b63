import Mathlib.Data.List.Permutation
import Mathlib.Data.Set.Card
import Shortlist.Proofs.Random.Placement
import Shortlist.Proofs.Selection.Draw

/-!
# Selections are fair

The candidates are a table without repeats, so its arrangements of some length correspond to the
samples of as many positions, one to one (`read_bijOn`). Where a sample takes one choice for each
position, its vectors of choices correspond to the samples, and therefore to the arrangements: every
list of so many different candidates, in every order, is selected by exactly one vector
(`Placement.pick_bijOn`). A set of so many candidates has as many arrangements as it has orders, so
all such sets are selected by equally many vectors (`ncard_arrangements`, `select_fair`).
-/

namespace Shortlist

open Shortlist.Random

/-! ## Reading a table at samples -/

section

variable {α : Type} [DecidableEq α] {table : List α}

/-- The entries of a table without repeats tell the positions at which they were read. -/
theorem map_idxOf_filterMap_getElem? (htable : table.Nodup) {positions : List Nat}
    (h : ∀ position ∈ positions, position < table.length) :
    (positions.filterMap (table[·]?)).map table.idxOf = positions := by
  induction positions with
  | nil => rfl
  | cons position rest ih =>
    obtain ⟨hposition, hrest⟩ := List.forall_mem_cons.mp h
    have hread : table[position]? = some table[position] := List.getElem?_eq_getElem hposition
    rw [List.filterMap_cons_some hread, List.map_cons, htable.idxOf_getElem, ih hrest]

/-- At the positions of some entries, these entries are read. -/
theorem filterMap_getElem?_map_idxOf {entries : List α} (h : ∀ entry ∈ entries, entry ∈ table) :
    (entries.map table.idxOf).filterMap (table[·]?) = entries := by
  induction entries with
  | nil => rfl
  | cons entry rest ih =>
    obtain ⟨hentry, hrest⟩ := List.forall_mem_cons.mp h
    rw [List.map_cons, List.filterMap_cons_some (List.getElem?_idxOf hentry), ih hrest]

/-- The samples of the positions of a table without repeats are read as its arrangements, each of
them from exactly one sample. -/
theorem read_bijOn (htable : table.Nodup) (amount : Nat) :
    Set.BijOn (fun positions => positions.filterMap (table[·]?)) (samples table.length amount)
      (arrangements table amount) := by
  have hread : Set.MapsTo (fun positions => positions.filterMap (table[·]?))
      (samples table.length amount) (arrangements table amount) := by
    intro positions h
    refine ⟨nodup_filterMap_getElem? htable h.nodup, ?_,
      fun entry hentry => mem_of_mem_filterMap_getElem? hentry⟩
    rw [length_filterMap_getElem? h.lt_length, h.length_eq]
  have hfind : Set.MapsTo (fun entries => entries.map table.idxOf) (arrangements table amount)
      (samples table.length amount) := by
    rintro entries ⟨hnodup, hlength, hmem⟩
    refine ⟨by rw [List.length_map, hlength], ?_, ?_⟩
    · -- Different entries stand at different positions.
      refine List.Nodup.map_on ?_ hnodup
      intro entry hentry other _ heq
      exact (List.idxOf_inj (hmem entry hentry)).mp heq
    · intro position hposition
      obtain ⟨entry, hentry, rfl⟩ := List.mem_map.mp hposition
      exact List.idxOf_lt_length_of_mem (hmem entry hentry)
  refine Set.InvOn.bijOn ⟨?_, ?_⟩ hread hfind
  · intro positions h
    exact map_idxOf_filterMap_getElem? htable h.lt_length
  · rintro entries ⟨-, -, hmem⟩
    exact filterMap_getElem?_map_idxOf hmem

/-! ## Orders of a set -/

/-- The arrangements of the members of a set are the orders that they can be put in. -/
theorem ncard_arrangements {amount : Nat} {chosen : Finset α} (hchosen : chosen ⊆ table.toFinset)
    (hcard : chosen.card = amount) :
    {entries ∈ arrangements table amount | entries.toFinset = chosen}.ncard = amount.factorial := by
  have horders : {entries ∈ arrangements table amount | entries.toFinset = chosen} =
      (chosen.toList.permutations.toFinset : Set (List α)) := by
    ext entries
    rw [Finset.mem_coe, List.mem_toFinset, List.mem_permutations]
    constructor
    · rintro ⟨⟨hnodup, -, -⟩, rfl⟩
      apply List.perm_of_nodup_nodup_toFinset_eq hnodup (Finset.nodup_toList _)
      rw [Finset.toList_toFinset]
    · intro hperm
      have hset : entries.toFinset = chosen := by
        rw [List.toFinset_eq_of_perm _ _ hperm, Finset.toList_toFinset]
      refine ⟨⟨hperm.nodup_iff.mpr chosen.nodup_toList, ?_, ?_⟩, hset⟩
      · rw [hperm.length_eq, Finset.length_toList, hcard]
      · intro entry hentry
        apply List.mem_toFinset.mp
        apply hchosen
        rwa [← hset, List.mem_toFinset]
  rw [horders, Set.ncard_coe_finset,
    List.toFinset_card_of_nodup (List.nodup_permutations _ chosen.nodup_toList),
    List.length_permutations, Finset.length_toList, hcard]

end

/-! ## Picking by choices -/

/-- What a vector of choices picks from a table: the entries at the positions to which it leads. -/
def Random.Placement.pick {α : Type} (p : Placement) (table : List α) (amount : Nat)
    (choices : List Nat) : List α :=
  (p.place table.length amount choices).filterMap (table[·]?)

/-- The vectors of choices pick the arrangements of a table without repeats, each of them by exactly
one vector. -/
theorem Random.Placement.pick_bijOn {α : Type} [DecidableEq α] (p : Placement) {table : List α}
    (htable : table.Nodup) {amount : Nat} (hle : amount ≤ table.length) :
    Set.BijOn (p.pick table amount) (choiceVectors (p.ranges table.length amount))
      (arrangements table amount) :=
  (read_bijOn htable amount).comp (p.place_bijOn table.length amount hle)

/-- A draw takes its choices from the stream and returns what they pick. -/
theorem draw_eq_pick {p : Placement} {table : List ProductId} {count amount : Nat}
    (hamount : min count table.length = amount)
    (hp : (strategy table.length amount).placement? = some p) (s : WordStream) :
    draw table count s =
      (p.pick table amount (s.choices (p.ranges table.length amount)).1,
        (s.choices (p.ranges table.length amount)).2) := by
  cases amount with
  | zero =>
    -- Nothing is asked of the source, and there are no choices.
    have hranges : p.ranges table.length 0 = [] :=
      List.eq_nil_of_length_eq_zero (p.length_ranges table.length 0)
    have hplace := (p.place_bijOn table.length 0 (Nat.zero_le table.length)).mapsTo
    rw [hranges, choiceVectors_nil, samples_zero] at hplace
    have hnone : p.place table.length 0 [] = [] := hplace rfl
    rw [draw_of_amount_eq_zero hamount, hranges, WordStream.choices, Placement.pick, hnone]
    rfl
  | succ amount =>
    have hsample : RandomSource.sample s table.length (amount + 1) =
        (p.place table.length (amount + 1)
            (s.choices (p.ranges table.length (amount + 1))).1,
          (s.choices (p.ranges table.length (amount + 1))).2) := by
      show (s.sample? _ _ _).getD _ = _
      rw [WordStream.sample?_of_placement hp, Option.getD_some]
    rw [draw_of_amount_ne_zero (by omega), hamount, hsample]
    rfl

/-- Selection is fair. Where a sample takes one choice for each position, in Floyd's way or by a
shuffle of the front, a selection is a function of its choices, and the vectors that the streams
answer are all those with one choice for each range. They correspond to the lists of so many
different candidates in every order, one to one, so each such list is selected by exactly one
vector, and each set of so many candidates by as many vectors as it has orders. -/
theorem select_fair (pool : List ProductId) (exclude : ProductSet) (count : Nat) {p : Placement}
    (hp : (strategy (candidates pool exclude).length
      (min count (candidates pool exclude).length)).placement? = some p) :
    let table := candidates pool exclude
    let amount := min count table.length
    let ranges := p.ranges table.length amount
    ranges.length = amount ∧
      Set.range (fun s : WordStream => (s.choices ranges).1) = choiceVectors ranges ∧
      (∀ s : WordStream, select pool exclude count s =
        (p.pick table amount (s.choices ranges).1, (s.choices ranges).2)) ∧
      Set.BijOn (p.pick table amount) (choiceVectors ranges) (arrangements table amount) ∧
      (∀ products ∈ arrangements table amount,
        ∃! choices, choices ∈ choiceVectors ranges ∧ p.pick table amount choices = products) ∧
      ∀ chosen ⊆ table.toFinset, chosen.card = amount →
        {choices ∈ choiceVectors ranges | (p.pick table amount choices).toFinset = chosen}.ncard =
          amount.factorial := by
  intro table amount ranges
  have hle : amount ≤ table.length := Nat.min_le_right count table.length
  have hpick : Set.BijOn (p.pick table amount) (choiceVectors ranges) (arrangements table amount) :=
    p.pick_bijOn (nodup_candidates pool exclude) hle
  refine ⟨p.length_ranges table.length amount, ?_, draw_eq_pick rfl hp, hpick, ?_, ?_⟩
  · apply WordStream.range_choices
    intro n hn
    obtain ⟨hpos, hn⟩ := p.ranges_bounds table.length amount hle n hn
    exact ⟨hpos, Nat.le_trans hn (Nat.le_of_lt (length_lt_of_placement hp))⟩
  · intro products hproducts
    obtain ⟨choices, hchoices, heq⟩ := hpick.surjOn hproducts
    refine ⟨choices, ⟨hchoices, heq⟩, ?_⟩
    rintro others ⟨hothers, heq'⟩
    exact hpick.injOn hothers hchoices (heq'.trans heq.symm)
  · intro chosen hchosen hcard
    rw [← ncard_arrangements hchosen hcard]
    -- The vectors of the set correspond to its orders.
    have hset : Set.BijOn (p.pick table amount)
        (choiceVectors ranges ∩ {choices | (p.pick table amount choices).toFinset = chosen})
        (arrangements table amount ∩ {products | products.toFinset = chosen}) :=
      hpick.inter_mapsTo (fun _ h => h) (fun _ h => h.2)
    exact hset.ncard_eq

/-- Two of three candidates, in Floyd's way: two vectors select the first two of them. -/
theorem select_fair_of_three :
    let pool : List ProductId := [⟨"a"⟩, ⟨"b"⟩, ⟨"a"⟩, ⟨"x"⟩, ⟨"c"⟩]
    let table := candidates pool (.ofList [⟨"x"⟩])
    (strategy table.length (min 2 table.length)).placement? = some floydPlacement ∧
      {⟨"a"⟩, ⟨"b"⟩} ⊆ table.toFinset ∧
      {choices ∈ choiceVectors [2, 3] | (floydPlacement.pick table 2 choices).toFinset =
        {⟨"a"⟩, ⟨"b"⟩}}.ncard = 2 := by
  intro pool table
  have htable : table = [⟨"a"⟩, ⟨"b"⟩, ⟨"c"⟩] := by decide +kernel
  have hamount : min 2 table.length = 2 := by rw [htable]; rfl
  have hp : (strategy table.length (min 2 table.length)).placement? = some floydPlacement := by
    rw [htable]
    rfl
  have hsub : {⟨"a"⟩, ⟨"b"⟩} ⊆ table.toFinset := by
    rw [htable]
    decide
  have hcard : ({⟨"a"⟩, ⟨"b"⟩} : Finset ProductId).card = 2 := by decide
  have hranges : floydPlacement.ranges table.length 2 = [2, 3] := by
    rw [htable]
    rfl
  obtain ⟨-, -, -, -, -, hsets⟩ := select_fair pool (.ofList [⟨"x"⟩]) 2 hp
  have hcount :
      {choices ∈ choiceVectors (floydPlacement.ranges table.length (min 2 table.length)) |
        (floydPlacement.pick table (min 2 table.length) choices).toFinset =
          {⟨"a"⟩, ⟨"b"⟩}}.ncard = (min 2 table.length).factorial :=
    hsets _ hsub (hcard.trans hamount.symm)
  rw [hamount, hranges] at hcount
  exact ⟨hp, hsub, hcount⟩

end Shortlist
