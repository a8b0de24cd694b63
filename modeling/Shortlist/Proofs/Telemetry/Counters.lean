import Mathlib.Algebra.GroupWithZero.Nat
import Shortlist.Telemetry.Metrics

/-!
# What signals count

A change of one series leaves the others (`value?_change`). Every series but the gauge of the
cache's size is a counter: each signal adds to it what it would count on empty metrics
(`Signal.counted`), so its value after a list of signals is the sum of these amounts
(`value_ofSignals`). For any series, the gauge included, what a signal makes of it depends on its
value alone (`value?_record_congr`), so signals that leave it can be left out
(`value?_ofSignals_filter`).
-/

namespace Shortlist

namespace Metrics

/-- A series exists when it has an entry. -/
theorem any_eq_isSome_lookup (entries : List (Series × Nat)) (s : Series) :
    entries.any (·.1 = s) = (entries.lookup s).isSome := by
  induction entries with
  | nil => rfl
  | cons e rest ih =>
    by_cases h : e.1 = s
    · simp [h]
    · rw [List.any_cons, ih, List.lookup_cons, beq_false_of_ne (Ne.symm h)]
      simp [h]

/-- Changing the entries of one series changes what is looked up for it and nothing else. -/
theorem lookup_map_change (entries : List (Series × Nat)) (s t : Series) (f : Nat → Nat) :
    (entries.map fun e => if e.1 = s then (e.1, f e.2) else e).lookup t =
      if s = t then (entries.lookup t).map f else entries.lookup t := by
  induction entries with
  | nil => simp
  | cons e rest ih =>
    obtain ⟨key, n⟩ := e
    rw [List.map_cons]
    by_cases hk : key = s
    · -- The first entry is changed; it decides the lookup only of its own series.
      subst hk
      by_cases ht : key = t
      · simp [ht]
      · simp [List.lookup_cons, ht, beq_false_of_ne (Ne.symm ht), ih]
    · by_cases ht : t = key
      · simp [ht, hk, Ne.symm hk]
      · simp only [hk, if_false, List.lookup_cons, beq_false_of_ne ht, ih]

/-- A change of one series gives it its new value and leaves the others. -/
theorem value?_change (m : Metrics) (s t : Series) (f : Nat → Nat) :
    (m.change s f).value? t = if s = t then some (f (m.value s)) else m.value? t := by
  simp only [change, value?, value, any_eq_isSome_lookup]
  cases hs : m.entries.lookup s with
  | some n =>
    -- The series exists, so its entry is changed in place.
    rw [Option.isSome_some, if_pos rfl, lookup_map_change]
    by_cases ht : s = t
    · rw [if_pos ht, if_pos ht, ← ht, hs]
      rfl
    · rw [if_neg ht, if_neg ht]
  | none =>
    -- The series is new, and its entry goes to the end.
    rw [Option.isSome_none, if_neg Bool.false_ne_true, List.lookup_append]
    by_cases ht : s = t
    · rw [if_pos ht, ← ht, hs]
      simp
    · rw [if_neg ht]
      simp [List.lookup_cons, beq_false_of_ne (Ne.symm ht)]

/-- Counting on a series adds to its value and leaves the others. -/
theorem value_add (m : Metrics) (s t : Series) (n : Nat) :
    (m.add s n).value t = m.value t + if s = t then n else 0 := by
  by_cases h : s = t
  · rw [add, value, value?_change, if_pos h, if_pos h, ← h]
    rfl
  · rw [add, value, value?_change, if_neg h, if_neg h]
    rfl

/-- Setting a gauge leaves the other series. -/
theorem value_set_of_ne (m : Metrics) {s t : Series} (h : s ≠ t) (n : Nat) :
    (m.set s n).value t = m.value t := by
  rw [set, value, value?_change, if_neg h]
  rfl

/-- What a change makes of a series depends on its value, and on no other. -/
theorem value?_change_congr {m m' : Metrics} {t : Series} (h : m.value? t = m'.value? t)
    (s : Series) (f : Nat → Nat) : (m.change s f).value? t = (m'.change s f).value? t := by
  rw [value?_change, value?_change]
  by_cases hs : s = t
  · rw [if_pos hs, if_pos hs, hs, value, value, h]
  · rw [if_neg hs, if_neg hs, h]

/-- Nothing has been counted yet. -/
theorem value_empty (s : Series) : empty.value s = 0 := rfl

end Metrics

/-- What a signal counts on a series. -/
def Signal.counted (signal : Signal) (s : Series) : Nat :=
  (Metrics.empty.record signal).value s

/-- A hit counts as one. -/
theorem Signal.counted_hit (size : Nat) (s : Series) :
    (Signal.hit size).counted s = if s = .cacheHits then 1 else 0 := by
  show (Metrics.empty.add .cacheHits 1).value s = _
  rw [Metrics.value_add, Metrics.value_empty, Nat.zero_add]
  simp only [eq_comm]

/-- A miss counts as one. -/
theorem Signal.counted_miss (s : Series) :
    Signal.miss.counted s = if s = .cacheMisses then 1 else 0 := by
  show (Metrics.empty.add .cacheMisses 1).value s = _
  rw [Metrics.value_add, Metrics.value_empty, Nat.zero_add]
  simp only [eq_comm]

/-- A good call counts as one, and so does its duration. -/
theorem Signal.counted_listed (catalog : String) (count : Nat) (s : Series) :
    (Signal.listed catalog count).counted s =
      if s = .catalogRequests true ∨ s = .catalogDuration then 1 else 0 := by
  show ((Metrics.empty.add (.catalogRequests true) 1).add .catalogDuration 1).value s = _
  rw [Metrics.value_add, Metrics.value_add, Metrics.value_empty]
  cases s <;> simp

/-- A failed call counts as one, and so does its duration. -/
theorem Signal.counted_listingFailed (catalog : String) (fault : Fault) (s : Series) :
    (Signal.listingFailed catalog fault).counted s =
      if s = .catalogRequests false ∨ s = .catalogDuration then 1 else 0 := by
  show ((Metrics.empty.add (.catalogRequests false) 1).add .catalogDuration 1).value s = _
  rw [Metrics.value_add, Metrics.value_add, Metrics.value_empty]
  cases s <;> simp

/-- Ids that are dropped are counted, and that some were. -/
theorem Signal.counted_evicted (size limit count : Nat) (s : Series) :
    (Signal.evicted size limit count).counted s =
      (if s = .cacheTruncations then 1 else 0) + if s = .cacheEvictions then count else 0 := by
  show ((Metrics.empty.add .cacheTruncations 1).add .cacheEvictions count).value s = _
  rw [Metrics.value_add, Metrics.value_add, Metrics.value_empty, Nat.zero_add]
  simp only [eq_comm]

/-- The size of the cache moves no counter. -/
theorem Signal.counted_sized (size : Nat) {s : Series} (hs : s ≠ .cacheSize) :
    (Signal.sized size).counted s = 0 := by
  show (Metrics.empty.set .cacheSize size).value s = 0
  rw [Metrics.value_set_of_ne _ (Ne.symm hs), Metrics.value_empty]

/-- The products of an answer are counted. -/
theorem Signal.counted_recommended (user : String) (pool available : Nat)
    (products : List ProductId) (s : Series) :
    (Signal.recommended user pool available products).counted s =
      if s = .recommendations then products.length else 0 := by
  show (Metrics.empty.add .recommendations products.length).value s = _
  rw [Metrics.value_add, Metrics.value_empty, Nat.zero_add]
  simp only [eq_comm]

/-- A default that stands in counts as one, of its flag. -/
theorem Signal.counted_flagDefaulted (flag : String) (default : Bool) (fault : Fault) (s : Series) :
    (Signal.flagDefaulted flag default fault).counted s =
      if s = .flagFallbacks flag then 1 else 0 := by
  show (Metrics.empty.add (.flagFallbacks flag) 1).value s = _
  rw [Metrics.value_add, Metrics.value_empty, Nat.zero_add]
  simp only [eq_comm]

/-- Only the size of the cache that is told moves the gauge. -/
theorem Signal.value?_record_cacheSize {signal : Signal} (h : ∀ n, signal ≠ .sized n)
    (m : Metrics) : (m.record signal).value? .cacheSize = m.value? .cacheSize := by
  cases signal with
  | sized n => exact absurd rfl (h n)
  | _ => simp [Metrics.record, Metrics.add, Metrics.value?_change]

namespace Metrics

/-- A signal adds to a counter what it counts on it, whatever has been counted before. -/
theorem value_record {s : Series} (hs : s ≠ .cacheSize) (m : Metrics) (signal : Signal) :
    (m.record signal).value s = m.value s + signal.counted s := by
  cases signal <;>
    simp only [Signal.counted, record, value_add, value_set_of_ne _ (Ne.symm hs), value_empty] <;>
    omega

/-- The value of a counter is the sum of what the signals count on it. -/
theorem value_ofSignals {s : Series} (hs : s ≠ .cacheSize) (signals : List Signal) :
    (ofSignals signals).value s = (signals.map (·.counted s)).sum := by
  -- The induction is on the signals, with whatever metrics they start from.
  have hgeneral : ∀ m : Metrics,
      (signals.foldl record m).value s = m.value s + (signals.map (·.counted s)).sum := by
    induction signals with
    | nil => simp
    | cons signal rest ih =>
      intro m
      rw [List.foldl_cons, ih, value_record hs, List.map_cons, List.sum_cons, Nat.add_assoc]
  rw [ofSignals, hgeneral, value_empty, Nat.zero_add]

/-- What a signal makes of a series depends on its value, and on no other. -/
theorem value?_record_congr {m m' : Metrics} {s : Series} (h : m.value? s = m'.value? s)
    (signal : Signal) : (m.record signal).value? s = (m'.record signal).value? s := by
  cases signal with
  | listed | listingFailed | evicted =>
    exact value?_change_congr (value?_change_congr h _ _) _ _
  | flagDefaulted | hit | miss | sized | recommended => exact value?_change_congr h _ _
  | _ => exact h

/-- Signals that leave a series can be left out. -/
theorem value?_ofSignals_filter {s : Series} {p : Signal → Bool}
    (hp : ∀ signal, p signal = false → ∀ m : Metrics, (m.record signal).value? s = m.value? s)
    (signals : List Signal) :
    (ofSignals (signals.filter p)).value? s = (ofSignals signals).value? s := by
  -- The induction is on the signals, with metrics that may differ elsewhere.
  have hgeneral : ∀ m m' : Metrics, m.value? s = m'.value? s →
      ((signals.filter p).foldl record m).value? s = (signals.foldl record m').value? s := by
    induction signals with
    | nil => exact fun m m' h => h
    | cons signal rest ih =>
      intro m m' h
      rw [List.foldl_cons]
      cases hsignal : p signal with
      | true =>
        rw [List.filter_cons_of_pos hsignal, List.foldl_cons]
        exact ih _ _ (value?_record_congr h signal)
      | false =>
        rw [List.filter_cons_of_neg (by simp [hsignal])]
        exact ih _ _ (h.trans (hp signal hsignal m').symm)
  exact hgeneral empty empty rfl

/-- More signals that leave a series do not change it. -/
theorem value?_ofSignals_append_of_leaves {s : Series} {more : List Signal}
    (h : ∀ signal ∈ more, ∀ m : Metrics, (m.record signal).value? s = m.value? s)
    (signals : List Signal) :
    (ofSignals (signals ++ more)).value? s = (ofSignals signals).value? s := by
  rw [ofSignals, ofSignals, List.foldl_append]
  generalize signals.foldl record empty = m
  induction more generalizing m with
  | nil => rfl
  | cons signal rest ih =>
    obtain ⟨hfirst, hrest⟩ := List.forall_mem_cons.mp h
    rw [List.foldl_cons, ih hrest, hfirst]

/-- The size that is told last is what the gauge shows. -/
theorem value?_ofSignals_concat_sized (signals : List Signal) (n : Nat) :
    (ofSignals (signals ++ [.sized n])).value? .cacheSize = some n := by
  rw [ofSignals, List.foldl_append, List.foldl_cons, List.foldl_nil, record, set, value?_change,
    if_pos rfl]

/-- More signals add what they count. -/
theorem value_ofSignals_append {s : Series} (hs : s ≠ .cacheSize) (signals more : List Signal) :
    (ofSignals (signals ++ more)).value s =
      (ofSignals signals).value s + (more.map (·.counted s)).sum := by
  rw [value_ofSignals hs, value_ofSignals hs, List.map_append, List.sum_append]

end Metrics

end Shortlist
