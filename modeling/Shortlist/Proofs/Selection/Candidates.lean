import Mathlib.Data.List.Sort
import Shortlist.Proofs.Selection.Draw

/-!
# What a selection rests on

The candidates are told by two things: which ids they are, those of the pool that are not excluded,
and that they stand in the order in which the pool first names them (`eq_candidates_iff`). They can
be found in two parts of the pool, if the ids of the first part are left out of the second
(`candidates_append`). What a selection returns rests on them alone, so it does not change where the
pool repeats ids that it has named before, its `Echoes`, or where ids are excluded that it does not
name (`candidates_of_echoes`). `candidates_decide` puts this together, for `select` and for
`Selector.select`, which ask their source the same.
-/

namespace Shortlist

/-! ## The candidates of a pool -/

/-- The candidates are the list of the ids of the pool that are not excluded, in the order in which
the pool first names them; there is no other such list. -/
theorem eq_candidates_iff {pool table : List ProductId} {exclude : ProductSet} :
    table = candidates pool exclude ↔
      (∀ id, id ∈ table ↔ id ∈ pool ∧ id ∉ exclude) ∧
        table.Pairwise fun id later => pool.idxOf id < pool.idxOf later := by
  have horder := ProductSet.pairwise_arrivals exclude pool
  constructor
  · rintro rfl
    exact ⟨fun id => mem_candidates, horder⟩
  · rintro ⟨hmem, htable⟩
    have : Std.Irrefl fun id later : ProductId => pool.idxOf id < pool.idxOf later :=
      ⟨fun _ => Nat.lt_irrefl _⟩
    have : Std.Antisymm fun id later : ProductId => pool.idxOf id < pool.idxOf later :=
      ⟨fun _ _ hlt hgt => absurd hgt (Nat.lt_asymm hlt)⟩
    refine htable.eq_of_mem_iff horder ?_
    intro id
    rw [hmem]
    exact mem_candidates.symm

/-- The candidates of a pool in two parts are those of the first, and those of the second that the
first does not name. -/
theorem candidates_append (pool later : List ProductId) (exclude : ProductSet) :
    candidates (pool ++ later) exclude =
      candidates pool exclude ++ candidates later (exclude ∪ .ofList pool) := by
  have hseen : ∀ id ∈ later, id ∈ (exclude.arrivals pool).2 ↔
      id ∈ exclude ∪ ProductSet.ofList pool := by
    intro id _
    rw [ProductSet.mem_arrivals_snd, Std.ExtTreeSet.mem_union_iff, ProductSet.mem_ofList]
  unfold candidates
  rw [ProductSet.arrivals_append, ProductSet.arrivals_congr hseen]

/-- Excluding ids that the pool does not name leaves its candidates as they are. -/
theorem candidates_union {pool : List ProductId} {more : ProductSet} (h : ∀ id ∈ more, id ∉ pool)
    (exclude : ProductSet) : candidates pool (exclude ∪ more) = candidates pool exclude := by
  apply ProductSet.arrivals_congr
  intro id hid
  have hnot : id ∉ more := fun hmore => h id hmore hid
  rw [Std.ExtTreeSet.mem_union_iff, or_iff_left hnot]

/-! ## Echoes -/

/-- A pool with echoes: `longer` is `pool` with more ids put in, each of which has been `heard`, or
stands further in front in the pool. -/
inductive Echoes : (heard pool longer : List ProductId) → Prop
  | nil {heard} : Echoes heard [] []
  /-- An id of the pool. -/
  | name {heard pool longer} (id) (rest : Echoes (id :: heard) pool longer) :
    Echoes heard (id :: pool) (id :: longer)
  /-- An echo. -/
  | echo {heard pool longer id} (again : id ∈ heard) (rest : Echoes heard pool longer) :
    Echoes heard pool (id :: longer)

/-- Nothing new is found in echoes, if the set holds what has been heard. -/
theorem Echoes.arrivals_eq {heard pool longer : List ProductId} (h : Echoes heard pool longer)
    {known : ProductSet} (hheard : ∀ id ∈ heard, id ∈ known) :
    known.arrivals longer = known.arrivals pool := by
  induction h generalizing known with
  | nil => rfl
  | @name heard pool longer id _ ih =>
    by_cases hid : id ∈ known
    · rw [ProductSet.arrivals_cons_of_mem hid, ProductSet.arrivals_cons_of_mem hid]
      exact ih (List.forall_mem_cons.mpr ⟨hid, hheard⟩)
    · -- The id is kept, and from here on it is in the set.
      have hnow : ∀ other ∈ id :: heard, other ∈ known.insert id := by
        intro other hother
        rw [ProductSet.mem_insert_iff]
        exact (List.mem_cons.mp hother).imp_right (hheard other)
      rw [ProductSet.arrivals_cons_of_not_mem hid, ProductSet.arrivals_cons_of_not_mem hid, ih hnow]
  | echo again _ ih =>
    rw [ProductSet.arrivals_cons_of_mem (hheard _ again)]
    exact ih hheard

/-- Neither echoes nor the exclusion of ids that the pool does not name change the candidates. -/
theorem candidates_of_echoes {pool longer : List ProductId} {more : ProductSet}
    (hechoes : Echoes [] pool longer) (hmore : ∀ id ∈ more, id ∉ pool) (exclude : ProductSet) :
    candidates longer (exclude ∪ more) = candidates pool exclude := by
  have hlonger : candidates longer (exclude ∪ more) = candidates pool (exclude ∪ more) :=
    congrArg Prod.fst (hechoes.arrivals_eq (by simp))
  rw [hlonger, candidates_union hmore]

/-! ## The two ways to select -/

section

variable {τ : Type} [RandomSource τ]

/-- What is asked of a source for some candidates: nothing if there is nothing to draw, else one
sample. -/
theorem draw_samples (table : List ProductId) (count : Nat) (source : Random.Tallied τ) :
    (draw table count source).2.samples =
      (if min count table.length = 0 then [] else [(table.length, min count table.length)]) ++
        source.samples := by
  by_cases h : min count table.length = 0
  · rw [draw_of_amount_eq_zero h, if_pos h, List.nil_append]
  · rw [draw_of_amount_ne_zero h, if_neg h]
    rfl

/-- A selector with a source selects what the source gives for the selector's number. -/
theorem Selector.select_eq (pool : List ProductId) (exclude : ProductSet) (count : Nat)
    (source : τ) :
    Selector.select { count, source } pool exclude =
      ({ available := (candidates pool exclude).length
         products := (Shortlist.select pool exclude count source).1 },
        { count, source := (Shortlist.select pool exclude count source).2 }) := rfl

end

/-- The candidates of a pool are its ids that are not excluded, each once, in the order in which the
pool first names them, and they can be found in two parts of it. The two ways to select ask their
source for the same samples, at most one, and select the same products; and the number of
candidates that the selector tells is that of the distinct ids of the pool that are not excluded.
Where the pool is given echoes of what it has named before, and ids are excluded that it does not
name, both select as before and ask the same. -/
theorem candidates_decide {τ : Type} [RandomSource τ] :
    (∀ (pool : List ProductId) (exclude : ProductSet) (table : List ProductId),
      table = candidates pool exclude ↔
        (∀ id, id ∈ table ↔ id ∈ pool ∧ id ∉ exclude) ∧
          table.Pairwise fun id later => pool.idxOf id < pool.idxOf later) ∧
    (∀ (pool : List ProductId) (exclude : ProductSet), (candidates pool exclude).Nodup) ∧
    (∀ (pool later : List ProductId) (exclude : ProductSet),
      candidates (pool ++ later) exclude =
        candidates pool exclude ++ candidates later (exclude ∪ .ofList pool)) ∧
    (∀ (pool : List ProductId) (exclude : ProductSet) (count : Nat) (source : Random.Tallied τ),
      let available := (pool.filter (· ∉ exclude)).toFinset.card
      let amount := min count available
      let chosen := select pool exclude count source
      let selection := Selector.select { count, source } pool exclude
      chosen.2.samples = (if amount = 0 then [] else [(available, amount)]) ++ source.samples ∧
        selection.1 = { available, products := chosen.1 } ∧
        selection.2 = { count, source := chosen.2 }) ∧
    (∀ (pool longer : List ProductId) (exclude more : ProductSet) (count : Nat) (source : τ),
      Echoes [] pool longer → (∀ id ∈ more, id ∉ pool) →
      candidates longer (exclude ∪ more) = candidates pool exclude ∧
        select longer (exclude ∪ more) count source = select pool exclude count source ∧
        Selector.select { count, source } longer (exclude ∪ more) =
          Selector.select { count, source } pool exclude) := by
  refine ⟨?_, ?_, ?_, ?_, ?_⟩
  · exact fun pool exclude table => eq_candidates_iff
  · exact nodup_candidates
  · exact candidates_append
  · -- Both ways draw from the same candidates, as many as the count tells.
    intro pool exclude count source available amount chosen selection
    have hlength : (candidates pool exclude).length = available := length_candidates pool exclude
    refine ⟨?_, ?_, ?_⟩
    · show (draw (candidates pool exclude) count source).2.samples = _
      rw [draw_samples, hlength]
    · show (Selector.select { count, source } pool exclude).1 = _
      rw [Selector.select_eq, hlength]
    · show (Selector.select { count, source } pool exclude).2 = _
      rw [Selector.select_eq]
  · -- The candidates stay the same, and so does all that rests on them.
    intro pool longer exclude more count source hechoes hmore
    have hsame := candidates_of_echoes hechoes hmore exclude
    have hselect : select longer (exclude ∪ more) count source =
        select pool exclude count source := by
      unfold select
      rw [hsame]
    refine ⟨hsame, hselect, ?_⟩
    rw [Selector.select_eq, Selector.select_eq, hsame, hselect]

/-- An id is repeated before and behind an excluded one, which is repeated too, and an id is
excluded that the pool does not name; the selector draws the last of two candidates. -/
theorem candidates_decide_of_echoes :
    let pool : List ProductId := [⟨"c"⟩, ⟨"a"⟩, ⟨"c"⟩, ⟨"b"⟩]
    let longer : List ProductId := [⟨"c"⟩, ⟨"c"⟩, ⟨"a"⟩, ⟨"c"⟩, ⟨"a"⟩, ⟨"b"⟩, ⟨"c"⟩, ⟨"b"⟩]
    let exclude : ProductSet := .ofList [⟨"b"⟩]
    let more : ProductSet := .ofList [⟨"z"⟩]
    let selector : Selector Random.Fixed := { count := 1, source := { order := .last } }
    (Echoes [] pool longer ∧ ∀ id ∈ more, id ∉ pool) ∧
      candidates longer (exclude ∪ more) = [⟨"c"⟩, ⟨"a"⟩] ∧
      (selector.select longer (exclude ∪ more)).1 = { available := 2, products := [⟨"a"⟩] } := by
  intro pool longer exclude more selector
  have hechoes : Echoes [] pool longer := by
    refine .name _ (.echo ?_ (.name _ (.name _ (.echo ?_ (.name _ (.echo ?_ (.echo ?_ .nil)))))))
    all_goals decide
  have hmore : ∀ id ∈ more, id ∉ pool := by
    intro id hid
    obtain rfl := List.mem_singleton.mp (ProductSet.mem_ofList.mp hid)
    decide
  obtain ⟨-, -, -, -, hsame⟩ := candidates_decide (τ := Random.Fixed)
  obtain ⟨hcandidates, -, hselect⟩ :=
    hsame pool longer exclude more 1 { order := .last } hechoes hmore
  refine ⟨⟨hechoes, hmore⟩, ?_, ?_⟩
  · rw [hcandidates]
    decide +kernel
  · rw [hselect]
    decide +kernel

end Shortlist
