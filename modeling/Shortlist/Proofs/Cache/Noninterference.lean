import Shortlist.Proofs.Cache.Open
import Shortlist.Proofs.Cache.Serial

/-!
# Disabled requests do not interfere

A disabled request asks the catalog and passes on what it brings. It neither waits for the cache nor
touches it, so the cache and the enabled requests fare as if it were not there. What they would be
without the disabled requests is a projection: `enabledEvents` keeps the events of the enabled
requests, which are numbered anew (`rank?`), and `enabledPart` keeps what a desk holds of them.
Every step of the desk projects to one step or to none (`Step.project`), so a run projects to a run
(`run_project`), with the same cache.

In the other direction, a disabled request gets what its own call brings, and no state of the cache
keeps it from its next step. `run_noninterference` states both.
-/

namespace Shortlist.Desk

/-! ## Numbering the enabled requests -/

/-- The number of an enabled request among the enabled ones; a disabled request has none. -/
def rank? (ms : List CacheMode) (ticket : Ticket) : Option Ticket :=
  if ms[ticket]? = some .enabled then some ((ms.take ticket).count .enabled) else none

/-- Numbers anew what is noted of a request, and leaves it out if the request is disabled. -/
def renumber? {α : Type} (ms : List CacheMode) (entry : Ticket × α) : Option (Ticket × α) :=
  (rank? ms entry.1).map (·, entry.2)

/-- The event that is left of an event when the enabled requests are by themselves. -/
def Event.kept? (ms : List CacheMode) : Event → Option Event
  | .arrive .enabled => some (.arrive .enabled)
  | .arrive .disabled => none
  | .grant ticket => (rank? ms ticket).map .grant
  | .answer ticket listing => (rank? ms ticket).map (.answer · listing)
  | .drop ticket => (rank? ms ticket).map .drop

/-- The events of the enabled requests, in their order, as they are without disabled requests. -/
def enabledEvents (events : List Event) : List Event :=
  events.filterMap (Event.kept? (modes events))

section

variable {ms : List CacheMode} {t u k : Ticket}

theorem rank?_of_enabled (h : ms[t]? = some .enabled) :
    rank? ms t = some ((ms.take t).count .enabled) := if_pos h

theorem rank?_of_disabled (h : ms[t]? = some .disabled) : rank? ms t = none :=
  if_neg (by rw [h]; simp)

theorem rank?_eq_some_iff :
    rank? ms t = some k ↔ ms[t]? = some .enabled ∧ (ms.take t).count .enabled = k := by
  unfold rank?
  split <;> simp_all

/-- A request keeps its mode when others arrive. -/
theorem getElem?_of_isPrefix {ms' : List CacheMode} {mode : CacheMode} (h : ms <+: ms')
    (ht : ms[t]? = some mode) : ms'[t]? = some mode := by
  obtain ⟨later, rfl⟩ := h
  rw [List.getElem?_append_left (List.getElem?_eq_some_iff.mp ht).1, ht]

/-- Before a later request there is one enabled request more. -/
theorem count_take_lt (h : ms[t]? = some .enabled) (htu : t < u) :
    (ms.take t).count .enabled < (ms.take u).count .enabled := by
  have hnext : (ms.take (t + 1)).count .enabled = (ms.take t).count .enabled + 1 := by
    rw [List.take_add_one, h, Option.toList_some, List.count_append, List.count_singleton_self]
  have hle : (ms.take (t + 1)).count .enabled ≤ (ms.take u).count .enabled :=
    (List.take_prefix_take_left htu).sublist.count_le _
  omega

/-- No two requests have the same number. -/
theorem rank?_inj (ht : rank? ms t = some k) (hu : rank? ms u = some k) : t = u := by
  obtain ⟨ht, hk⟩ := rank?_eq_some_iff.mp ht
  obtain ⟨hu, hk'⟩ := rank?_eq_some_iff.mp hu
  rcases Nat.lt_trichotomy t u with h | h | h
  · have hlt := count_take_lt ht h
    omega
  · exact h
  · have hlt := count_take_lt hu h
    omega

theorem renumber?_of_rank {α : Type} (h : rank? ms t = some k) (a : α) :
    renumber? ms (t, a) = some (k, a) := by
  rw [renumber?, h, Option.map_some]

theorem renumber?_of_disabled {α : Type} (h : rank? ms t = none) (a : α) :
    renumber? ms (t, a) = none := by
  rw [renumber?, h, Option.map_none]

/-- Different notes remain different. -/
theorem renumber?_inj {α : Type} {entry entry' : Ticket × α} {b : Ticket × α}
    (h : renumber? ms entry = some b) (h' : renumber? ms entry' = some b) : entry = entry' := by
  obtain ⟨k, hk, rfl⟩ := Option.map_eq_some_iff.mp h
  obtain ⟨k', hk', heq⟩ := Option.map_eq_some_iff.mp h'
  obtain ⟨rfl, hsame⟩ := Prod.mk.inj heq
  exact Prod.ext (rank?_inj hk hk') hsame.symm

/-- The requests that are left are the enabled ones. -/
theorem modes_filterMap_kept? (events : List Event) :
    modes (events.filterMap (Event.kept? ms)) = (modes events).filter (· = .enabled) := by
  rw [modes, modes, List.filterMap_filterMap, List.filter_filterMap]
  refine List.filterMap_congr fun e _ => ?_
  rcases e with (_ | _) | t | ⟨t, listing⟩ | t
  · rfl
  · rfl
  all_goals cases hk : rank? ms t <;> simp [Event.kept?, hk]

/-- The catalog brings to each of them what it brought before. -/
theorem answerTo?_filterMap_kept? (h : rank? ms t = some k) (events : List Event) :
    answerTo? (events.filterMap (Event.kept? ms)) k = answerTo? events t := by
  rw [answerTo?, answerTo?, ← List.head?_filterMap, ← List.head?_filterMap,
    List.filterMap_filterMap]
  refine congrArg List.head? (List.filterMap_congr fun e _ => ?_)
  rcases e with (_ | _) | u | ⟨u, listing⟩ | u
  · rfl
  · rfl
  · cases hu : rank? ms u <;> simp [Event.kept?, hu]
  · by_cases hut : u = t
    · simp [Event.kept?, hut, h]
    · -- Another request has another number, or none.
      cases hu : rank? ms u with
      | none => simp [Event.kept?, hu, hut]
      | some j =>
        have hjk : j ≠ k := by
          rintro rfl
          exact hut (rank?_inj hu h)
        simp [Event.kept?, hu, hut, hjk]
  · cases hu : rank? ms u <;> simp [Event.kept?, hu]

end

/-! ## Lists of which a part is kept -/

section

variable {α β : Type} {f : α → Option β} {a : α} {b : β}

/-- What becomes of an entry is kept exactly if the entry was there. -/
theorem mem_filterMap_of_inj (inj : ∀ {a a' b}, f a = some b → f a' = some b → a = a')
    (h : f a = some b) {l : List α} : b ∈ l.filterMap f ↔ a ∈ l := by
  rw [List.mem_filterMap]
  constructor
  · rintro ⟨a', ha', h'⟩
    rwa [inj h h']
  · exact fun ha => ⟨a, ha, h⟩

variable [BEq α] [LawfulBEq α]

/-- To take away an entry that is not kept changes nothing in what is. -/
theorem filterMap_erase_of_none (h : f a = none) (l : List α) :
    (l.erase a).filterMap f = l.filterMap f := by
  induction l with
  | nil => rfl
  | cons x l ih =>
    by_cases hx : x = a
    · rw [hx, List.erase_cons_head, List.filterMap_cons_none h]
    · rw [List.erase_cons_tail (by simpa using hx), List.filterMap_cons, List.filterMap_cons, ih]

/-- To take away an entry takes away what is kept of it. -/
theorem filterMap_erase_of_some [BEq β] [LawfulBEq β]
    (inj : ∀ {a a' b}, f a = some b → f a' = some b → a = a') (h : f a = some b) (l : List α) :
    (l.erase a).filterMap f = (l.filterMap f).erase b := by
  induction l with
  | nil => rfl
  | cons x l ih =>
    by_cases hx : x = a
    · rw [hx, List.erase_cons_head, List.filterMap_cons_some h, List.erase_cons_head]
    · rw [List.erase_cons_tail (by simpa using hx)]
      cases hkept : f x with
      | none => rw [List.filterMap_cons_none hkept, List.filterMap_cons_none hkept, ih]
      | some y =>
        have hy : y ≠ b := by
          rintro rfl
          exact hx (inj hkept h)
        rw [List.filterMap_cons_some hkept, List.filterMap_cons_some hkept,
          List.erase_cons_tail (by simpa using hy), ih]

end

/-! ## The part of a desk that is about enabled requests -/

variable {σ : Type}

/-- What is left of a desk without the disabled requests. -/
def enabledPart (ms : List CacheMode) (d : Desk σ) : Desk σ where
  cache := d.cache
  catalog := d.catalog
  arrived := (ms.take d.arrived).count .enabled
  lock := d.lock.bind (rank? ms)
  waiting := d.waiting.filterMap (rank? ms)
  calling := d.calling.filterMap (renumber? ms)
  answered := d.answered.filterMap (renumber? ms)
  log := d.log.filterMap (renumber? ms)

section

variable {ms : List CacheMode} {events : List Event} {d d' : Desk σ} {e : Event} {t k : Ticket}

/-- An enabled request waits under its new number if it waits. -/
theorem mem_waiting_enabledPart (h : rank? ms t = some k) :
    k ∈ (d.enabledPart ms).waiting ↔ t ∈ d.waiting :=
  mem_filterMap_of_inj rank?_inj h

/-- And so it has its call in flight. -/
theorem mem_calling_enabledPart (h : rank? ms t = some k) {mode : CacheMode} :
    (k, mode) ∈ (d.enabledPart ms).calling ↔ (t, mode) ∈ d.calling :=
  mem_filterMap_of_inj renumber?_inj (renumber?_of_rank h mode)

/-- Taking away the call of an enabled request takes it away under its new number. -/
theorem filterMap_erase_call_of_some (h : rank? ms t = some k) (mode : CacheMode)
    (calling : List (Ticket × CacheMode)) :
    (calling.erase (t, mode)).filterMap (renumber? ms) =
      (calling.filterMap (renumber? ms)).erase (k, mode) :=
  filterMap_erase_of_some renumber?_inj (renumber?_of_rank h mode) calling

/-- Taking away that of a disabled one changes nothing. -/
theorem filterMap_erase_call_of_none (h : rank? ms t = none) (mode : CacheMode)
    (calling : List (Ticket × CacheMode)) :
    (calling.erase (t, mode)).filterMap (renumber? ms) = calling.filterMap (renumber? ms) :=
  filterMap_erase_of_none (renumber?_of_disabled h mode) calling

/-- The signals of an enabled request are kept, under its new number. -/
theorem filterMap_renumber?_of_some (h : rank? ms t = some k) (signals : List Signal) :
    (signals.map (t, ·)).filterMap (renumber? ms) = signals.map (k, ·) := by
  rw [List.filterMap_map, ← List.filterMap_eq_map]
  exact List.filterMap_congr fun signal _ => renumber?_of_rank h signal

/-- An enabled request has the same result under its new number. -/
theorem result?_enabledPart (h : rank? ms t = some k) :
    (d.enabledPart ms).result? k = d.result? t := by
  show (d.answered.filterMap (renumber? ms)).lookup k = d.answered.lookup t
  induction d.answered with
  | nil => rfl
  | cons entry answered ih =>
    obtain ⟨u, listing⟩ := entry
    cases hu : rank? ms u with
    | none =>
      have hne : t ≠ u := by
        rintro rfl
        rw [h] at hu
        cases hu
      rw [List.filterMap_cons_none (renumber?_of_disabled hu _), List.lookup_cons,
        beq_false_of_ne hne]
      exact ih
    | some j =>
      rw [List.filterMap_cons_some (renumber?_of_rank hu _)]
      by_cases hne : t = u
      · subst hne
        obtain rfl := Option.some.inj (h.symm.trans hu)
        rw [List.lookup_cons_self, List.lookup_cons_self]
      · have hne' : k ≠ j := by
          rintro rfl
          exact hne (rank?_inj h hu)
        rw [List.lookup_cons, List.lookup_cons, beq_false_of_ne hne, beq_false_of_ne hne']
        exact ih

variable [RandomSource σ]

/-- Every step projects to the step of the event that is left of its own, or to none if nothing is
left of it. -/
theorem Step.project (hs : Step d e d') (h : Ledger events d)
    (hms : modes (events ++ [e]) <+: ms) :
    match e.kept? ms with
    | some e' => Step (d.enabledPart ms) e' (d'.enabledPart ms)
    | none => d'.enabledPart ms = d.enabledPart ms := by
  have hmode : ∀ {t : Ticket} {m : CacheMode}, (modes events)[t]? = some m → ms[t]? = some m := by
    intro t m ht
    exact getElem?_of_isPrefix ((modes_isPrefix_concat events e).trans hms) ht
  have henabled : ∀ {t : Ticket}, (modes events)[t]? = some .enabled → ∃ k, rank? ms t = some k :=
    fun ht => ⟨_, rank?_of_enabled (hmode ht)⟩
  have hdisabled : ∀ {t : Ticket}, (modes events)[t]? = some .disabled → rank? ms t = none :=
    fun ht => rank?_of_disabled (hmode ht)
  cases hs with
  | queue =>
    have hnew : ms[d.arrived]? = some .enabled := by
      refine getElem?_of_isPrefix hms ?_
      rw [modes_concat_arrive, h.arrived, List.getElem?_concat_length]
    have hproj : Step (d.enabledPart ms) (.arrive .enabled) _ := .queue
    show Step (d.enabledPart ms) (.arrive .enabled) _
    convert hproj using 1
    simp [enabledPart, rank?_of_enabled hnew, List.take_add_one, hnew, renumber?]
  | call =>
    have hnew : ms[d.arrived]? = some .disabled := by
      refine getElem?_of_isPrefix hms ?_
      rw [modes_concat_arrive, h.arrived, List.getElem?_concat_length]
    show enabledPart ms _ = _
    simp [enabledPart, rank?_of_disabled hnew, List.take_add_one, hnew, renumber?]
  | @hit t pool cache signals waits free enters =>
    obtain ⟨k, hk⟩ := henabled (h.waiting t waits).1
    have hfree : (d.enabledPart ms).lock = none := by rw [enabledPart, free]; rfl
    have hproj : Step (d.enabledPart ms) (.grant k) _ :=
      .hit ((mem_waiting_enabledPart hk).mpr waits) hfree enters
    simp only [Event.kept?, hk, Option.map_some]
    convert hproj using 1
    simp only [enabledPart, filterMap_erase_of_some rank?_inj hk, List.filterMap_append,
      List.filterMap_cons_some (renumber?_of_rank hk _), filterMap_renumber?_of_some hk]
  | @miss t cache signals waits free enters =>
    obtain ⟨k, hk⟩ := henabled (h.waiting t waits).1
    have hfree : (d.enabledPart ms).lock = none := by rw [enabledPart, free]; rfl
    have hproj : Step (d.enabledPart ms) (.grant k) _ :=
      .miss ((mem_waiting_enabledPart hk).mpr waits) hfree enters
    simp only [Event.kept?, hk, Option.map_some]
    convert hproj using 1
    simp only [enabledPart, filterMap_erase_of_some rank?_inj hk, List.filterMap_append,
      List.filterMap_cons_some (renumber?_of_rank hk _), List.filterMap_nil, Option.bind_some, hk,
      filterMap_renumber?_of_some hk]
  | @settle t listing calls =>
    obtain ⟨k, hk⟩ := henabled (h.calling t _ calls).1
    have hproj : Step (d.enabledPart ms) (.answer k listing) _ :=
      .settle listing ((mem_calling_enabledPart hk).mpr calls)
    simp only [Event.kept?, hk, Option.map_some]
    convert hproj using 1
    simp only [enabledPart, filterMap_erase_call_of_some hk, List.filterMap_append,
      List.filterMap_cons_some (renumber?_of_rank hk _), filterMap_renumber?_of_some hk,
      Option.bind_none]
  | @pass t listing other calls =>
    have hk := hdisabled (h.calling t _ calls).1
    simp only [Event.kept?, hk, Option.map_none]
    simp only [enabledPart, filterMap_erase_call_of_none hk, List.filterMap_append,
      List.filterMap_cons_none (renumber?_of_disabled hk _), List.filterMap_nil, List.append_nil]
  | @leave t waits =>
    obtain ⟨k, hk⟩ := henabled (h.waiting t waits).1
    have hproj : Step (d.enabledPart ms) (.drop k) _ :=
      .leave ((mem_waiting_enabledPart hk).mpr waits)
    simp only [Event.kept?, hk, Option.map_some]
    convert hproj using 1
    simp only [enabledPart, filterMap_erase_of_some rank?_inj hk]
  | @abandon t other calls =>
    obtain ⟨k, hk⟩ := henabled (h.calling t _ calls).1
    have hproj : Step (d.enabledPart ms) (.drop k) _ :=
      .abandon (fun hw => other ((mem_waiting_enabledPart hk).mp hw))
        ((mem_calling_enabledPart hk).mpr calls)
    simp only [Event.kept?, hk, Option.map_some]
    convert hproj using 1
    simp only [enabledPart, filterMap_erase_call_of_some hk, Option.bind_none]
  | @hangUp t other another calls =>
    have hk := hdisabled (h.calling t _ calls).1
    simp only [Event.kept?, hk, Option.map_none]
    simp only [enabledPart, filterMap_erase_call_of_none hk]

/-- A run projects to the run of the events that are left of its own. -/
theorem run_project {config : CacheConfig} {source : σ} {catalog : String}
    (h : (new config source catalog).run events = some d) (hms : modes events <+: ms) :
    (new config source catalog).run (events.filterMap (Event.kept? ms)) =
      some (d.enabledPart ms) := by
  refine run_induction (P := fun events d => modes events <+: ms →
    (new config source catalog).run (events.filterMap (Event.kept? ms)) =
      some (d.enabledPart ms)) ?_ ?_ h hms
  · exact fun _ => rfl
  · intro events d e d' hrun ih hs hms
    have hbefore := ih ((modes_isPrefix_concat events e).trans hms)
    have hstep := hs.project (run_ledger hrun) hms
    rw [List.filterMap_append, List.filterMap_cons, List.filterMap_nil]
    cases hkept : e.kept? ms with
    | none =>
      rw [hkept] at hstep
      rw [List.append_nil, hbefore, hstep]
    | some e' =>
      rw [hkept] at hstep
      exact foldlM_concat_eq_some.mpr ⟨_, hbefore, step_eq_some_iff.mpr hstep⟩

/-- What a step logs of the cache it logs of an enabled request. -/
theorem Step.told (hs : Step d e d') (h : Ledger events d) :
    ∃ more : List (Ticket × Signal), d'.log = d.log ++ more ∧ ∀ entry ∈ more,
      entry.2.ofCache = true → (modes events)[entry.1]? = some .enabled := by
  cases hs with
  | queue | call => exact ⟨[(d.arrived, .poolAsked _)], rfl, by simp [Signal.ofCache]⟩
  | @hit t _ _ signals waits | @miss t _ signals waits =>
    refine ⟨signals.map (t, ·), rfl, fun entry hentry _ => ?_⟩
    obtain ⟨signal, -, rfl⟩ := List.mem_map.mp hentry
    exact (h.waiting t waits).1
  | @settle t listing calls =>
    refine ⟨(d.cache.settle d.catalog listing).2.2.map (t, ·), rfl, fun entry hentry _ => ?_⟩
    obtain ⟨signal, -, rfl⟩ := List.mem_map.mp hentry
    exact (h.calling t _ calls).1
  | @pass t listing =>
    refine ⟨[(t, ProductCache.listingSignal d.catalog listing)], rfl, ?_⟩
    cases listing <;> simp [ProductCache.listingSignal, Signal.ofCache]
  | leave | abandon | hangUp => exact ⟨[], (List.append_nil _).symm, by simp⟩

/-- What is logged of the cache is logged of enabled requests. -/
theorem run_told {config : CacheConfig} {source : σ} {catalog : String}
    (h : (new config source catalog).run events = some d) :
    ∀ entry ∈ d.log, entry.2.ofCache = true → (modes events)[entry.1]? = some .enabled := by
  refine run_induction (P := fun events d => ∀ entry ∈ d.log, entry.2.ofCache = true →
    (modes events)[entry.1]? = some .enabled) ?_ ?_ h
  · intro entry hentry
    cases hentry
  · intro events d e d' hrun ih hs entry hentry hcache
    obtain ⟨more, hlog, hmore⟩ := hs.told (run_ledger hrun)
    rw [hlog, List.mem_append] at hentry
    refine getElem?_of_isPrefix (modes_isPrefix_concat events e) ?_
    rcases hentry with hentry | hentry
    · exact ih entry hentry hcache
    · exact hmore entry hentry hcache

omit [RandomSource σ] in
/-- If nothing is logged of the cache but of enabled requests, it is all that is left of it. -/
theorem filter_signals_enabledPart
    (h : ∀ entry ∈ d.log, entry.2.ofCache = true → ms[entry.1]? = some .enabled) :
    (d.enabledPart ms).signals.filter Signal.ofCache = d.signals.filter Signal.ofCache := by
  show ((d.log.filterMap (renumber? ms)).map (·.2)).filter Signal.ofCache =
    (d.log.map (·.2)).filter Signal.ofCache
  generalize d.log = log at h
  induction log with
  | nil => rfl
  | cons entry log ih =>
    obtain ⟨t, signal⟩ := entry
    have hrest := ih fun entry hentry => h entry (List.mem_cons_of_mem _ hentry)
    rw [List.map_cons]
    cases hcache : signal.ofCache with
    | true =>
      have hk := rank?_of_enabled (h (t, signal) List.mem_cons_self hcache)
      rw [List.filterMap_cons_some (renumber?_of_rank hk signal), List.map_cons,
        List.filter_cons_of_pos hcache, List.filter_cons_of_pos hcache, hrest]
    | false =>
      rw [List.filter_cons_of_neg (by simp [hcache]), ← hrest]
      cases hkept : renumber? ms (t, signal) with
      | none => rw [List.filterMap_cons_none hkept]
      | some entry' =>
        obtain ⟨k, -, rfl⟩ := Option.map_eq_some_iff.mp hkept
        rw [List.filterMap_cons_some hkept, List.map_cons,
          List.filter_cons_of_neg (by simp [hcache])]

end

/-! ## What the disabled requests do by themselves -/

section

variable {events : List Event} {d d' : Desk σ} {e : Event} {t : Ticket}

/-- An open request that is disabled has its call in flight, and is neither waiting nor
refreshing. -/
theorem Ledger.calling_of_disabled (h : Ledger events d) (ht : d.Open t)
    (hmode : (modes events)[t]? = some .disabled) :
    (t, .disabled) ∈ d.calling ∧ (t, .enabled) ∉ d.calling ∧ t ∉ d.waiting := by
  have hwaits : t ∉ d.waiting := by
    intro hw
    have henabled := (h.waiting t hw).1
    rw [hmode] at henabled
    cases henabled
  obtain ⟨mode, hcall⟩ := ht.resolve_left hwaits
  obtain rfl : CacheMode.disabled = mode :=
    Option.some.inj (hmode.symm.trans (h.calling t mode hcall).1)
  refine ⟨hcall, fun hother => ?_, hwaits⟩
  cases h.calling_mode hcall hother

variable [RandomSource σ]

/-- A request that has arrived and to which nothing has happened is open. -/
theorem run_open {config : CacheConfig} {source : σ} {catalog : String}
    (h : (new config source catalog).run events = some d) (ht : t < d.arrived)
    (htrail : trail events t = []) : d.Open t := by
  refine run_induction (P := fun events d => t < d.arrived → trail events t = [] → d.Open t)
    ?_ ?_ h ht htrail
  · intro ht
    cases ht
  · intro events d e d' hrun ih hs ht htrail
    have hother : e.ticket? ≠ some t := by
      intro habout
      rw [trail_concat_self habout] at htrail
      simp at htrail
    rw [trail_concat_of_ne hother] at htrail
    by_cases hnew : t = d.arrived
    · cases hs with
      | queue => exact Or.inl (by simp [hnew])
      | call => exact Or.inr ⟨.disabled, by simp [hnew]⟩
      | _ => exact absurd hnew (Nat.ne_of_lt ht)
    · have hle : d'.arrived ≤ d.arrived + 1 := by
        cases hs <;> simp
      have hold : t < d.arrived :=
        Nat.lt_of_le_of_ne (Nat.le_of_lt_succ (Nat.lt_of_lt_of_le ht hle)) hnew
      exact (hs.open_iff hother hnew).mpr (ih hold htrail)

/-- A disabled request has the result that its catalog call brought, and none before. -/
theorem run_disabled {config : CacheConfig} {source : σ} {catalog : String}
    (h : (new config source catalog).run events = some d)
    (hmode : (modes events)[t]? = some .disabled) : d.result? t = answerTo? events t := by
  refine run_induction (P := fun events d => (modes events)[t]? = some .disabled →
    d.result? t = answerTo? events t) ?_ ?_ h hmode
  · exact fun _ => rfl
  · intro events d e d' hrun ih hs hmode
    have hledger := run_ledger hrun
    by_cases habout : e.ticket? = some t
    · -- The call of the request comes back, or the request is dropped.
      rw [modes_concat_of_ticket habout] at hmode
      have hopen := hs.open_self habout
      obtain ⟨-, hother, hwaits⟩ := hledger.calling_of_disabled hopen hmode
      have hnone : answerTo? events t = none := by
        rw [← ih hmode, hledger.result?_of_open hopen]
      cases hs with
      | queue => cases habout
      | call => cases habout
      | hit waits => exact absurd (Option.some.inj habout ▸ waits) hwaits
      | miss waits => exact absurd (Option.some.inj habout ▸ waits) hwaits
      | settle listing calls => exact absurd (Option.some.inj habout ▸ calls) hother
      | pass listing =>
        obtain rfl := Option.some.inj habout
        rw [result?_of_answered (d := d) rfl, answerTo?_concat_answer listing hnone]
      | leave waits => exact absurd (Option.some.inj habout ▸ waits) hwaits
      | abandon _ calls => exact absurd (Option.some.inj habout ▸ calls) hother
      | hangUp =>
        rw [answerTo?_concat_of_ne (by simp), hnone]
        exact hledger.result?_of_open hopen
    · rw [hs.result?_eq habout, answerTo?_concat_of_ne]
      · by_cases ht : t < d.arrived
        · rw [getElem?_modes_concat events e (hledger.arrived ▸ ht)] at hmode
          exact ih hmode
        · -- A request that has not arrived before this event has neither.
          have htrail := hledger.ahead t (Nat.not_lt.mp ht)
          rw [hledger.unanswered t (Or.inl htrail), answerTo?_eq_none (by simp [htrail])]
      · rintro listing rfl
        exact habout rfl

/-- Nothing about the cache is different: neither what it holds, nor who holds it, nor who waits for
it. -/
def Untouched (d d' : Desk σ) : Prop :=
  d'.cache = d.cache ∧ d'.lock = d.lock ∧ d'.waiting = d.waiting

/-- A disabled request with its call in flight can be answered with whatever its call brings, and
can be dropped, and neither touches the cache. -/
theorem disabled_steps (hcalls : (t, .disabled) ∈ d.calling) (hother : (t, .enabled) ∉ d.calling)
    (hwaits : t ∉ d.waiting) :
    (∀ listing, ∃ d', d.step (.answer t listing) = some d' ∧ d'.result? t = some listing ∧
      Untouched d d') ∧
    ∃ d', d.step (.drop t) = some d' ∧ d'.result? t = d.result? t ∧ Untouched d d' := by
  constructor
  · intro listing
    exact ⟨_, step_eq_some_iff.mpr (.pass listing hother hcalls), result?_of_answered (d := d) rfl,
      rfl, rfl, rfl⟩
  · exact ⟨_, step_eq_some_iff.mpr (.hangUp hwaits hother hcalls), rfl, rfl, rfl, rfl⟩

end

/-- Disabled requests do not interfere with the cache. For every interleaving of requests, the
events of the enabled ones, with what the catalog brought to them, are a run by themselves. In it
each of them has the result that it had, and it ends with the same cache, which is to say the same
pool, first turn, size and draws, and with the same gauge and counters of hits, misses, truncations
and evictions.

And the cache does not interfere with disabled requests. In whatever state it is, held by an enabled
request or not, a disabled request can arrive, and one that has arrived can be answered with
whatever its catalog call brings, which is its result, or be dropped; none of this touches the
cache. So every disabled request has exactly the answer of its own call, and none before that
came. -/
theorem run_noninterference [RandomSource σ] (config : CacheConfig) (source : σ) (catalog : String)
    (events : List Event) (d : Desk σ) (h : (new config source catalog).run events = some d) :
    (modes (enabledEvents events) = (modes events).filter (· = .enabled) ∧
      ∃ d', (new config source catalog).run (enabledEvents events) = some d' ∧
        d'.cache = d.cache ∧
        (∀ t, (modes events)[t]? = some .enabled → ∃ k, rank? (modes events) t = some k ∧
          answerTo? (enabledEvents events) k = answerTo? events t ∧
          d'.result? k = d.result? t) ∧
        ∀ s ∈ .cacheSize :: Series.ofCache, (Metrics.ofSignals d'.signals).value? s =
          (Metrics.ofSignals d.signals).value? s) ∧
    (∃ d', d.step (.arrive .disabled) = some d' ∧ Untouched d d') ∧
    ∀ t, (modes events)[t]? = some .disabled →
      d.result? t = answerTo? events t ∧
      (trail events t = [] →
        (∀ listing, ∃ d', d.step (.answer t listing) = some d' ∧ d'.result? t = some listing ∧
          Untouched d d') ∧
        ∃ d', d.step (.drop t) = some d' ∧ d'.result? t = none ∧ Untouched d d') := by
  have hledger := run_ledger h
  refine ⟨⟨modes_filterMap_kept? events, d.enabledPart (modes events),
    run_project h (List.prefix_refl _), rfl, ?_, ?_⟩,
    ⟨_, step_eq_some_iff.mpr .call, rfl, rfl, rfl⟩, ?_⟩
  · intro t ht
    have hk := rank?_of_enabled ht
    exact ⟨_, hk, answerTo?_filterMap_kept? hk events, result?_enabledPart hk⟩
  · exact Metrics.value?_eq_of_ofCache (filter_signals_enabledPart (run_told h))
  · intro t ht
    refine ⟨run_disabled h ht, fun htrail => ?_⟩
    have hlt : t < d.arrived := hledger.lt_arrived ht
    obtain ⟨hcalls, hother, hwaits⟩ := hledger.calling_of_disabled (run_open h hlt htrail) ht
    obtain ⟨hanswer, d', hdrop, hresult, hsame⟩ := disabled_steps hcalls hother hwaits
    exact ⟨hanswer, d', hdrop, by rw [hresult, hledger.unanswered t (Or.inl htrail)], hsame⟩

/-- Three disabled requests beside two enabled ones: one is answered while the first enabled request
refreshes the cache, one is dropped, and the last has its call in flight while the second enabled
request holds the cache. -/
theorem run_noninterference_of_three_disabled :
    let start := new { maxEntries := 3 } ({ units := [0.25] } : Random.Fixed) "shop"
    let events : List Event :=
      [.arrive .disabled, .arrive .enabled, .grant 1, .answer 0 (.ok [⟨"z"⟩, ⟨"z"⟩]),
        .arrive .disabled, .arrive .enabled, .answer 1 (.ok [⟨"a"⟩, ⟨"b"⟩]), .drop 2,
        .arrive .disabled, .grant 3]
    ∃ d d', start.run events = some d ∧
      start.run [.arrive .enabled, .grant 0, .arrive .enabled, .answer 0 (.ok [⟨"a"⟩, ⟨"b"⟩]),
        .grant 1] = some d' ∧
      d'.cache = d.cache ∧ d'.result? 0 = d.result? 1 ∧ d.lock = some 3 ∧
      d.result? 0 = some (.ok [⟨"z"⟩, ⟨"z"⟩]) ∧
      ∃ d'', d.step (.answer 4 (.error (.catalogUnavailable "down"))) = some d'' ∧
        d''.lock = some 3 ∧ d''.result? 4 = some (.error (.catalogUnavailable "down")) := by
  intro start events
  have hlock : (start.run events).map (·.lock) = some (some 3) := by decide +kernel
  obtain ⟨d, hd, hd₃⟩ := Option.map_eq_some_iff.mp hlock
  obtain ⟨⟨-, d', hd', hcache, hresults, -⟩, -, hdisabled⟩ := run_noninterference _ _ _ _ _ hd
  obtain ⟨k, hk, -, hresult⟩ := hresults 1 rfl
  obtain rfl : 0 = k := Option.some.inj hk
  obtain ⟨hzeroth, -⟩ := hdisabled 0 rfl
  obtain ⟨-, hlast⟩ := hdisabled 4 rfl
  obtain ⟨d'', hstep, hanswer, -, hsame, -⟩ :=
    (hlast rfl).1 (.error (.catalogUnavailable "down"))
  exact ⟨d, d', hd, hd', hcache, hresult, hd₃, hzeroth, d'', hstep, hsame.trans hd₃, hanswer⟩

end Shortlist.Desk
