import Shortlist.Proofs.Random.Placement
import Shortlist.Proofs.Random.Unit

/-!
# The seeded source honours its contract

A sample of a seeded source comes about in one of two ways. Some are placed by choices, and are
there as soon as the choices are. The others collect values below the length that are not taken yet,
from attempts that may be refused, so that a sample need not come within a given number of attempts.
If it comes, its positions are distinct and in range (`collect_spec`), and more attempts would not
have changed it (`collect_mono`). `draws_spec` says what all draws of a stream have in common, at
whatever position it stands.
-/

namespace Shortlist.Random.WordStream

/-! ## Collected samples -/

/-- A number that is drawn with 32 or 64 bits fits into as many. -/
theorem bits_lt {width : Nat} (hwidth : width = 32 ∨ width = 64) (s : WordStream) :
    (s.bits width).1 < 2^width := by
  have hlow := s.next.1.toNat_lt
  have hhigh := s.next.2.next.1.toNat_lt
  rcases hwidth with rfl | rfl
  · exact hlow
  · show s.next.2.next.1.toNat * wordValues + s.next.1.toNat < 2^64
    unfold wordValues
    omega

/-- An attempt that is not refused gives a value below `n`. -/
theorem attempt_lt {width : Nat} (hwidth : width = 32 ∨ width = 64) {n v : Nat} {s : WordStream}
    (h : (s.attempt width n).1 = some v) : v < n := by
  have hbits := bits_lt hwidth s
  have hattempt : (s.attempt width n).1 =
      if (2^width - n) % n ≤ (s.bits width).1 * n % 2^width then
        some ((s.bits width).1 * n / 2^width)
      else none := rfl
  rw [hattempt] at h
  split at h
  · rename_i haccepted
    obtain rfl := Option.some.inj h
    rcases Nat.eq_zero_or_pos n with rfl | hpos
    · -- From no values, every attempt is refused.
      rw [Nat.mul_zero, Nat.zero_mod, Nat.mod_zero] at haccepted
      have hvalues := Nat.two_pow_pos width
      omega
    · apply Nat.div_lt_of_lt_mul
      exact Nat.mul_lt_mul_of_pos_right hbits hpos
  · cases h

/-- What is collected is a sample, if what was taken before is one. -/
theorem collect_spec {width : Nat} (hwidth : width = 32 ∨ width = 64) {n fuel amount before : Nat}
    {taken : Taken} {s : WordStream} {picked : List Nat × WordStream}
    (htaken : IsSample n before taken.latest)
    (h : s.collect width n fuel amount taken = some picked) :
    IsSample n (before + amount) picked.1 := by
  fun_induction collect width n fuel amount taken s generalizing before with
  | case1 fuel taken s =>
    -- Nothing is left to collect; the latest value comes last.
    obtain rfl := Option.some.inj h
    refine ⟨?_, List.nodup_reverse.mpr htaken.nodup, ?_⟩
    · rw [List.length_reverse, htaken.length_eq, Nat.add_zero]
    · intro v hv
      exact htaken.lt_length v (List.mem_reverse.mp hv)
  | case2 => cases h
  | case3 fuel amount taken s v s' hattempt hhas ih => exact ih htaken h
  | case4 fuel amount taken s v s' hattempt hhas ih =>
    -- The value is new, and the rest is collected with it.
    have hlt : v < n := attempt_lt hwidth (congrArg Prod.fst hattempt)
    have hnew : v ∉ taken.latest := fun hv => hhas ((taken.has_iff v).mpr hv)
    have hgrown : IsSample n (before + 1) (taken.take v).latest := by
      refine ⟨?_, List.nodup_cons.mpr ⟨hnew, htaken.nodup⟩, ?_⟩
      · show (v :: taken.latest).length = before + 1
        rw [List.length_cons, htaken.length_eq]
      · exact List.forall_mem_cons.mpr ⟨hlt, htaken.lt_length⟩
    have hpicked := ih hgrown h
    rwa [Nat.add_assoc, Nat.add_comm 1] at hpicked
  | case5 fuel amount taken s s' hattempt ih => exact ih htaken h

/-- A sample that is collected within some attempts is collected with more of them, too. -/
theorem collect_mono {width n fuel more amount : Nat} {taken : Taken} {s : WordStream}
    {picked : List Nat × WordStream} (h : s.collect width n fuel amount taken = some picked)
    (hle : fuel ≤ more) : s.collect width n more amount taken = some picked := by
  fun_induction collect width n fuel amount taken s generalizing more with
  | case1 fuel taken s =>
    rw [← h]
    cases more <;> rfl
  | case2 => cases h
  | case3 fuel amount taken s v s' hattempt hhas ih =>
    obtain ⟨more, rfl⟩ := Nat.exists_eq_add_of_le' (Nat.le_trans (Nat.succ_pos fuel) hle)
    rw [collect, hattempt]
    simp only [hhas, if_true]
    exact ih h (Nat.le_of_succ_le_succ hle)
  | case4 fuel amount taken s v s' hattempt hhas ih =>
    obtain ⟨more, rfl⟩ := Nat.exists_eq_add_of_le' (Nat.le_trans (Nat.succ_pos fuel) hle)
    rw [collect, hattempt]
    simp only [hhas]
    exact ih h (Nat.le_of_succ_le_succ hle)
  | case5 fuel amount taken s s' hattempt ih =>
    obtain ⟨more, rfl⟩ := Nat.exists_eq_add_of_le' (Nat.le_trans (Nat.succ_pos fuel) hle)
    rw [collect, hattempt]
    exact ih h (Nat.le_of_succ_le_succ hle)

/-! ## Samples and unit draws -/

/-- A sample that comes has as many positions as were asked for, each once, and all in range. -/
theorem sample?_spec {length amount fuel : Nat} (hle : amount ≤ length) {s : WordStream}
    {picked : List Nat × WordStream} (h : s.sample? fuel length amount = some picked) :
    IsSample length amount picked.1 := by
  have hcollected : ∀ width, width = 32 ∨ width = 64 →
      s.collect width length fuel amount .nothing = some picked →
        IsSample length amount picked.1 := by
    intro width hwidth hcollect
    have hnothing : IsSample length 0 Taken.nothing.latest :=
      ⟨rfl, List.nodup_nil, fun v hv => absurd hv List.not_mem_nil⟩
    have hpicked := collect_spec hwidth hnothing hcollect
    rwa [Nat.zero_add] at hpicked
  cases hway : (strategy length amount).placement? with
  | some p =>
    rw [sample?_of_placement hway] at h
    obtain rfl := Option.some.inj h
    exact (p.place_bijOn length amount hle).mapsTo
      (choices_mem (fun n hn => (p.ranges_bounds length amount hle n hn).1) s)
  | none =>
    have hmem := strategy_mem length amount
    unfold sample? at h
    generalize strategy length amount = way at *
    cases way with
    | floyd => cases hway
    | shuffle => cases hway
    | collect width =>
      have hwidth : width = 32 ∨ width = 64 := by simpa using hmem
      exact hcollected width hwidth h

/-- A sample that comes within some attempts comes with more of them, too. -/
theorem sample?_mono {length amount fuel more : Nat} {s : WordStream}
    {picked : List Nat × WordStream} (h : s.sample? fuel length amount = some picked)
    (hle : fuel ≤ more) : s.sample? more length amount = some picked := by
  unfold sample? at *
  cases hway : strategy length amount with
  | floyd => rwa [hway] at h
  | shuffle => rwa [hway] at h
  | collect width =>
    rw [hway] at h
    exact collect_mono h hle

/-- The seeded source honours the contract of a source. -/
theorem contract : RandomSource.Contract WordStream := by
  intro s length amount hle
  show IsSample length amount ((s.sample? (attempts amount) length amount).getD _).1
  cases hsample : s.sample? (attempts amount) length amount with
  | some picked => exact sample?_spec hle hsample
  | none => exact Order.isSample_positions .first hle

/-- A unit draw is in the unit interval, its upper end excluded. -/
theorem unit_mem (s : WordStream) : 0 ≤ s.unit.1 ∧ s.unit.1 < 1 := by
  have hpair : s.nextPair.1 < 2^64 := bits_lt (Or.inr rfl) s
  have hunit : s.unit.1 = unitOf (s.nextPair.1 / 2048) := rfl
  rw [hunit]
  apply unitOf_mem
  omega

/-- What the draws of a seeded source are like. Whatever its seed and however many draws were made
before, that is, from every position of every stream: a sample of no more positions than there are
is taken in one of four ways, and if it comes within some number of attempts, it has as many
positions as were asked for, each once and all in range, and would have come just so with more
attempts; by choices, in Floyd's way or by a shuffle, it comes without any attempt. Where attempts
are limited in number, the contract holds all the same. A choice from `n` values is below `n`, and a
unit draw is at least zero and below one. -/
theorem draws_spec (s : WordStream) :
    (∀ length amount, amount ≤ length →
      strategy length amount ∈
          [Strategy.floyd, Strategy.shuffle, Strategy.collect 32, Strategy.collect 64] ∧
        (∀ fuel picked, s.sample? fuel length amount = some picked →
          IsSample length amount picked.1 ∧
            ∀ more, fuel ≤ more → s.sample? more length amount = some picked) ∧
        (strategy length amount ∈ [Strategy.floyd, Strategy.shuffle] →
          ∀ fuel, (s.sample? fuel length amount).isSome = true)) ∧
      RandomSource.Contract WordStream ∧
      (∀ n, 1 ≤ n → n ≤ wordValues → (s.below n).1 < n) ∧
      0 ≤ s.unit.1 ∧ s.unit.1 < 1 := by
  refine ⟨?_, contract, fun n hn _ => below_lt hn s, s.unit_mem⟩
  intro length amount hle
  refine ⟨strategy_mem length amount, ?_, ?_⟩
  · intro fuel picked hpicked
    exact ⟨sample?_spec hle hpicked, fun more hmore => sample?_mono hpicked hmore⟩
  · intro hway fuel
    have hplacement : ∃ p, (strategy length amount).placement? = some p := by
      generalize strategy length amount = way at *
      cases way with
      | floyd => exact ⟨_, rfl⟩
      | shuffle => exact ⟨_, rfl⟩
      | collect width => simp at hway
    obtain ⟨p, hp⟩ := hplacement
    rw [sample?_of_placement hp]
    rfl

/-- Ten of ten positions from the seed 7, taken in Floyd's way. -/
theorem draws_spec_of_seven :
    10 ≤ 10 ∧ strategy 10 10 ∈ [Strategy.floyd, Strategy.shuffle] ∧
      (∃ picked, (ofSeed 7).sample? 0 10 10 = some picked ∧ IsSample 10 10 picked.1 ∧
        (ofSeed 7).sample? 3 10 10 = some picked) ∧
      1 ≤ 3 ∧ 3 ≤ wordValues ∧ ((ofSeed 7).below 3).1 < 3 ∧
      0 ≤ (ofSeed 7).unit.1 ∧ (ofSeed 7).unit.1 < 1 := by
  obtain ⟨hsamples, -, hbelow, hunit⟩ := draws_spec (ofSeed 7)
  have hway : strategy 10 10 ∈ [Strategy.floyd, Strategy.shuffle] := by decide
  obtain ⟨-, hcomes, hthere⟩ := hsamples 10 10 (Nat.le_refl 10)
  obtain ⟨picked, hpicked⟩ := Option.isSome_iff_exists.mp (hthere hway 0)
  obtain ⟨hsample, hmore⟩ := hcomes 0 picked hpicked
  exact ⟨Nat.le_refl 10, hway, ⟨picked, hpicked, hsample, hmore 3 (Nat.zero_le 3)⟩,
    by decide, by decide, hbelow 3 (by decide) (by decide), hunit⟩

end Shortlist.Random.WordStream
