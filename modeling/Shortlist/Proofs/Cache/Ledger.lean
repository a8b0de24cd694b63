import Mathlib.Data.List.Nodup
import Shortlist.Proofs.Cache.Step

/-!
# The tickets of a desk

What the events of a run say about each request, and how the desk that the run leads to agrees with
it. `modes` lists the modes in which requests arrived, so that a ticket is a position in it;
`trail` lists the events about one request after its arrival, `granted` the tickets in the order in
which they were granted the cache, and `answerTo?` what a request's catalog call brought.

`Ledger` is the agreement: a waiting request has no trail yet, a fetching one has been granted the
cache and nothing else, and the cache is held exactly by a fetching request, the last to which it
was granted. `run_ledger` says that it holds after every run.
-/

namespace Shortlist.Desk

/-- The request that an event is about, unless it is an arrival. -/
def Event.ticket? : Event → Option Ticket
  | .arrive _ => none
  | .grant ticket | .answer ticket _ | .drop ticket => some ticket

/-- The modes of the requests, in the order of their arrival. -/
def modes (events : List Event) : List CacheMode :=
  events.filterMap fun
    | .arrive mode => some mode
    | _ => none

/-- The requests that were granted the cache, in the order of the grants. -/
def granted (events : List Event) : List Ticket :=
  events.filterMap fun
    | .grant ticket => some ticket
    | _ => none

/-- The events about a request after its arrival. -/
def trail (events : List Event) (ticket : Ticket) : List Event :=
  events.filter fun e => e.ticket? = some ticket

/-- What the catalog call of a request brought, if it came back. -/
def answerTo? (events : List Event) (ticket : Ticket) : Option Listing :=
  events.findSome? fun
    | .answer other listing => if other = ticket then some listing else none
    | _ => none

/-- The modes in two lists of events are those of the one and then those of the other. -/
theorem modes_append (earlier later : List Event) :
    modes (earlier ++ later) = modes earlier ++ modes later := List.filterMap_append

/-- And so are the grants. -/
theorem granted_append (earlier later : List Event) :
    granted (earlier ++ later) = granted earlier ++ granted later := List.filterMap_append

/-! ## What one more event adds -/

theorem modes_concat_arrive (events : List Event) (mode : CacheMode) :
    modes (events ++ [.arrive mode]) = modes events ++ [mode] := by
  simp [modes]

/-- Only an arrival adds a mode. -/
theorem modes_concat_of_ticket {events : List Event} {e : Event} {ticket : Ticket}
    (h : e.ticket? = some ticket) : modes (events ++ [e]) = modes events := by
  cases e <;> simp_all [modes, Event.ticket?]

theorem modes_isPrefix_concat (events : List Event) (e : Event) :
    modes events <+: modes (events ++ [e]) := by
  rw [modes, modes, List.filterMap_append]
  exact List.prefix_append _ _

/-- The requests that have arrived keep their modes. -/
theorem getElem?_modes_concat (events : List Event) (e : Event) {t : Ticket}
    (ht : t < (modes events).length) : (modes (events ++ [e]))[t]? = (modes events)[t]? := by
  obtain ⟨later, hlater⟩ := modes_isPrefix_concat events e
  rw [← hlater, List.getElem?_append_left ht]

theorem granted_concat_grant (events : List Event) (ticket : Ticket) :
    granted (events ++ [.grant ticket]) = granted events ++ [ticket] := by
  simp [granted]

/-- Only a grant adds a granted request. -/
theorem granted_concat_of_ne {events : List Event} {e : Event} (h : ∀ ticket, e ≠ .grant ticket) :
    granted (events ++ [e]) = granted events := by
  cases e <;> simp_all [granted]

/-- An event goes to the end of the trail of its request. -/
theorem trail_concat_self {events : List Event} {e : Event} {ticket : Ticket}
    (h : e.ticket? = some ticket) : trail (events ++ [e]) ticket = trail events ticket ++ [e] := by
  simp [trail, h]

/-- An event leaves the trails of all other requests. -/
theorem trail_concat_of_ne {events : List Event} {e : Event} {ticket : Ticket}
    (h : e.ticket? ≠ some ticket) : trail (events ++ [e]) ticket = trail events ticket := by
  simp [trail, h]

/-- An event that is not an answer to a request does not change what its call brought. -/
theorem answerTo?_concat_of_ne {events : List Event} {e : Event} {ticket : Ticket}
    (h : ∀ listing, e ≠ .answer ticket listing) :
    answerTo? (events ++ [e]) ticket = answerTo? events ticket := by
  cases e <;> simp_all [answerTo?, List.findSome?_append]

/-- The first answer to a request is what its call brought. -/
theorem answerTo?_concat_answer {events : List Event} {ticket : Ticket} (listing : Listing)
    (h : answerTo? events ticket = none) :
    answerTo? (events ++ [.answer ticket listing]) ticket = some listing := by
  rw [answerTo?] at h ⊢
  simp [List.findSome?_append, h]

/-- An event about a request is in its trail. -/
theorem mem_trail {events : List Event} {e : Event} {ticket : Ticket}
    (h : e.ticket? = some ticket) : e ∈ trail events ticket ↔ e ∈ events := by
  simp [trail, h]

/-- The granted requests are those with a grant among the events. -/
theorem mem_granted {events : List Event} {ticket : Ticket} :
    ticket ∈ granted events ↔ .grant ticket ∈ events := by
  rw [granted, List.mem_filterMap]
  constructor
  · rintro ⟨e, he, hgrant⟩
    cases e <;> simp_all
  · intro h
    exact ⟨_, h, rfl⟩

/-- A call brought nothing if no answer is in the trail of its request. -/
theorem answerTo?_eq_none {events : List Event} {ticket : Ticket}
    (h : ∀ listing, .answer ticket listing ∉ trail events ticket) :
    answerTo? events ticket = none := by
  rw [answerTo?, List.findSome?_eq_none_iff]
  intro e he
  cases e with
  | answer other listing =>
    by_cases ho : other = ticket
    · subst ho
      exact absurd ((mem_trail rfl).mpr he) (h listing)
    · simp [ho]
  | _ => rfl

/-! ## The agreement of a desk with its events -/

section

variable {σ : Type} {events : List Event} {d d' : Desk σ}

/-- A new answer is that of its request. -/
theorem result?_of_answered {ticket : Ticket} {r : Listing}
    (h : d'.answered = (ticket, r) :: d.answered) : d'.result? ticket = some r := by
  rw [result?, h, List.lookup_cons_self]

/-- A new answer leaves those of all other requests. -/
theorem result?_of_answered_of_ne {ticket t : Ticket} {r : Listing}
    (h : d'.answered = (ticket, r) :: d.answered) (ht : t ≠ ticket) :
    d'.result? t = d.result? t := by
  rw [result?, h, List.lookup_cons, beq_false_of_ne ht]
  rfl

/-- The trail of a request while its catalog call is in flight. -/
def opening (ticket : Ticket) : CacheMode → List Event
  | .enabled => [.grant ticket]
  | .disabled => []

/-- How a desk agrees with the events that led to it. -/
structure Ledger (events : List Event) (d : Desk σ) : Prop where
  /-- Tickets are given out in order. -/
  arrived : d.arrived = (modes events).length
  /-- Nothing happens to a request before it arrives. -/
  ahead : ∀ t, d.arrived ≤ t → trail events t = []
  /-- A waiting request is enabled, and nothing has happened to it yet. -/
  waiting : ∀ t ∈ d.waiting, (modes events)[t]? = some .enabled ∧ trail events t = []
  /-- A call in flight is that of a request that has been granted the cache, or of a disabled one to
  which nothing has happened yet. -/
  calling : ∀ t mode, (t, mode) ∈ d.calling →
    (modes events)[t]? = some mode ∧ trail events t = opening t mode
  waiting_nodup : d.waiting.Nodup
  calling_nodup : d.calling.Nodup
  /-- The cache is held exactly by a request whose refresh is in flight. -/
  lock : ∀ t, d.lock = some t ↔ (t, .enabled) ∈ d.calling
  /-- A request to which nothing has happened and one that is refreshing have no answer. -/
  unanswered : ∀ t, trail events t = [] ∨ (t, .enabled) ∈ d.calling → d.result? t = none
  /-- Only enabled requests are granted the cache, and each at most once. -/
  granted_enabled : ∀ t ∈ granted events, (modes events)[t]? = some .enabled
  granted_nodup : (granted events).Nodup
  /-- The cache is held by the last request that it was granted to. -/
  latest : ∀ t, d.lock = some t → (granted events).getLast? = some t

namespace Ledger

/-- A request that has arrived has a ticket below the number of arrivals. -/
theorem lt_arrived (h : Ledger events d) {t : Ticket} {mode : CacheMode}
    (ht : (modes events)[t]? = some mode) : t < d.arrived := by
  rw [h.arrived]
  exact (List.getElem?_eq_some_iff.mp ht).1

/-- Every event is about a request that has arrived. -/
theorem lt_arrived_of_mem (h : Ledger events d) {e : Event} {t : Ticket} (he : e ∈ events)
    (ht : e.ticket? = some t) : t < d.arrived := by
  by_contra hge
  have hmem := (mem_trail ht).mpr he
  rw [h.ahead t (Nat.not_lt.mp hge)] at hmem
  cases hmem

/-- The mode of a call in flight is that of its request. -/
theorem calling_mode (h : Ledger events d) {t : Ticket} {mode mode' : CacheMode}
    (hm : (t, mode) ∈ d.calling) (hm' : (t, mode') ∈ d.calling) : mode = mode' := by
  have hfirst := (h.calling t mode hm).1
  rw [(h.calling t mode' hm').1] at hfirst
  exact (Option.some.inj hfirst).symm

/-- A waiting request has no call in flight: if it is enabled it has not been granted the cache. -/
theorem not_calling_of_waiting (h : Ledger events d) {t : Ticket} (ht : t ∈ d.waiting)
    (mode : CacheMode) : (t, mode) ∉ d.calling := by
  intro hcall
  obtain ⟨hmode, htrail⟩ := h.waiting t ht
  obtain ⟨hmode', htrail'⟩ := h.calling t mode hcall
  rw [hmode] at hmode'
  obtain rfl := Option.some.inj hmode'
  rw [htrail] at htrail'
  cases htrail'

/-- A request without a trail has not been granted the cache. -/
theorem not_granted_of_trail (h : trail events t = []) : t ∉ granted events := by
  intro ht
  have hmem := (mem_trail rfl).mpr (mem_granted.mp ht)
  rw [h] at hmem
  cases hmem

/-- Nothing has come back to a request whose call is in flight. -/
theorem answerTo?_of_calling (h : Ledger events d) {t : Ticket} {mode : CacheMode}
    (ht : (t, mode) ∈ d.calling) : answerTo? events t = none := by
  refine answerTo?_eq_none fun listing hmem => ?_
  rw [(h.calling t mode ht).2] at hmem
  cases mode <;> simp [opening] at hmem

/-- The last request that was granted the cache is none of those before it. -/
theorem last_not_mem_before (h : Ledger events d) {t : Ticket} {before : List Ticket}
    (ht : granted events = before ++ [t]) : t ∉ before := by
  have hnodup := h.granted_nodup
  rw [ht, ← List.concat_eq_append, List.nodup_concat] at hnodup
  exact hnodup.1

/-- The requests whose refresh is in flight are the one that holds the cache. -/
theorem eq_of_fetching (h : Ledger events d) {t u : Ticket} (ht : (t, .enabled) ∈ d.calling)
    (hu : (u, .enabled) ∈ d.calling) : t = u := by
  have hlock := (h.lock t).mpr ht
  rw [(h.lock u).mpr hu] at hlock
  exact (Option.some.inj hlock).symm

/-- Once its call has been taken from those in flight, a request has none. -/
theorem not_mem_erase (h : Ledger events d) {t : Ticket} {mode : CacheMode}
    (ht : (t, mode) ∈ d.calling) (mode' : CacheMode) : (t, mode') ∉ d.calling.erase (t, mode) := by
  intro hm
  rw [h.calling_nodup.mem_erase_iff] at hm
  exact hm.1 (by rw [h.calling_mode ht hm.2])

/-- Once the call of the refresh has been taken from those in flight, none is a refresh, which is
what the free cache means. -/
theorem lock_erase (h : Ledger events d) {t : Ticket} (ht : (t, .enabled) ∈ d.calling)
    (u : Ticket) : none = some u ↔ (u, .enabled) ∈ d.calling.erase (t, .enabled) := by
  constructor
  · intro hu
    cases hu
  · intro hu
    have heq := h.eq_of_fetching (List.mem_of_mem_erase hu) ht
    exact absurd (heq ▸ hu) h.calling_nodup.not_mem_erase

/-- Taking a disabled request's call from those in flight leaves the refresh. -/
theorem lock_erase_disabled (h : Ledger events d) (t u : Ticket) :
    d.lock = some u ↔ (u, .enabled) ∈ d.calling.erase (t, .disabled) := by
  rw [h.lock u, List.mem_erase_of_ne (by simp)]

/-- A desk without requests agrees with no events. -/
theorem init (config : CacheConfig) (source : σ) (catalog : String) :
    Ledger [] (new config source catalog) where
  arrived := rfl
  ahead _ _ := rfl
  waiting t ht := by cases ht
  calling t mode hm := by cases hm
  waiting_nodup := List.nodup_nil
  calling_nodup := List.nodup_nil
  lock t := by simp [new]
  unanswered t _ := rfl
  granted_enabled t ht := by cases ht
  granted_nodup := List.nodup_nil
  latest t ht := by cases ht

/-- An arrival: the request waits if it is enabled, and has its call in flight if it is not. -/
theorem arrive (h : Ledger events d) {mode : CacheMode} (arrived : d'.arrived = d.arrived + 1)
    (lock : d'.lock = d.lock) (result : ∀ t, d'.result? t = d.result? t)
    (place : (mode = .enabled ∧ d'.waiting = d.waiting ++ [d.arrived] ∧ d'.calling = d.calling) ∨
      (mode = .disabled ∧ d'.waiting = d.waiting ∧
        d'.calling = d.calling ++ [(d.arrived, .disabled)])) :
    Ledger (events ++ [.arrive mode]) d' := by
  have htrail : ∀ t, trail (events ++ [.arrive mode]) t = trail events t :=
    fun t => trail_concat_of_ne (by simp [Event.ticket?])
  have hgranted : granted (events ++ [.arrive mode]) = granted events :=
    granted_concat_of_ne (by simp)
  -- The new request is the first without a mode so far; the others keep theirs.
  have hnew : (modes (events ++ [.arrive mode]))[d.arrived]? = some mode := by
    rw [modes_concat_arrive, h.arrived, List.getElem?_concat_length]
  have hold : ∀ {t : Ticket} {m : CacheMode}, (modes events)[t]? = some m →
      (modes (events ++ [.arrive mode]))[t]? = some m := by
    intro t m ht
    rw [getElem?_modes_concat events _ (List.getElem?_eq_some_iff.mp ht).1, ht]
  have hfresh : d.arrived ∉ d.waiting ∧ ∀ m, (d.arrived, m) ∉ d.calling :=
    ⟨fun hw => Nat.lt_irrefl _ (h.lt_arrived (h.waiting _ hw).1),
      fun m hm => Nat.lt_irrefl _ (h.lt_arrived (h.calling _ m hm).1)⟩
  have hahead := h.ahead d.arrived (Nat.le_refl _)
  constructor
  · rw [arrived, modes_concat_arrive, List.length_append, h.arrived]
    rfl
  · -- Nothing has happened to the requests after the new one.
    intro t ht
    rw [htrail]
    exact h.ahead t (by omega)
  · -- The requests that wait: those before, and the new one if it is enabled.
    intro t ht
    rw [htrail]
    rcases place with ⟨rfl, hw, -⟩ | ⟨-, hw, -⟩
    · rw [hw, List.mem_append, List.mem_singleton] at ht
      rcases ht with ht | rfl
      · exact ⟨hold (h.waiting t ht).1, (h.waiting t ht).2⟩
      · exact ⟨hnew, hahead⟩
    · rw [hw] at ht
      exact ⟨hold (h.waiting t ht).1, (h.waiting t ht).2⟩
  · -- The calls in flight: those before, and that of the new one if it is disabled.
    intro t m ht
    rw [htrail]
    rcases place with ⟨-, -, hc⟩ | ⟨rfl, -, hc⟩
    · rw [hc] at ht
      exact ⟨hold (h.calling t m ht).1, (h.calling t m ht).2⟩
    · rw [hc, List.mem_append, List.mem_singleton] at ht
      rcases ht with ht | ht
      · exact ⟨hold (h.calling t m ht).1, (h.calling t m ht).2⟩
      · obtain ⟨rfl, rfl⟩ := Prod.mk.inj ht
        exact ⟨hnew, hahead⟩
  · rcases place with ⟨-, hw, -⟩ | ⟨-, hw, -⟩
    · rw [hw, ← List.concat_eq_append]
      exact h.waiting_nodup.concat hfresh.1
    · rw [hw]
      exact h.waiting_nodup
  · rcases place with ⟨-, -, hc⟩ | ⟨-, -, hc⟩
    · rw [hc]
      exact h.calling_nodup
    · rw [hc, ← List.concat_eq_append]
      exact h.calling_nodup.concat (hfresh.2 _)
  · -- The call of a disabled request does not hold the cache.
    intro t
    rw [lock, h.lock t]
    rcases place with ⟨-, -, hc⟩ | ⟨-, -, hc⟩
    · rw [hc]
    · simp [hc]
  · intro t ht
    rw [htrail] at ht
    rw [result]
    refine h.unanswered t (ht.imp_right fun hc => ?_)
    rcases place with ⟨-, -, hc'⟩ | ⟨-, -, hc'⟩
    · rwa [hc'] at hc
    · simpa [hc'] using hc
  · intro t ht
    rw [hgranted] at ht
    exact hold (h.granted_enabled t ht)
  · rw [hgranted]
    exact h.granted_nodup
  · intro t ht
    rw [hgranted]
    exact h.latest t (lock ▸ ht)

/-- A grant of the free cache: the request no longer waits, and either it is answered or it holds
the cache and its call is in flight. -/
theorem grant (h : Ledger events d) {ticket : Ticket} (waits : ticket ∈ d.waiting)
    (free : d.lock = none) (arrived : d'.arrived = d.arrived)
    (waiting : d'.waiting = d.waiting.erase ticket)
    (result : ∀ t, t ≠ ticket → d'.result? t = d.result? t)
    (place : (d'.lock = none ∧ d'.calling = d.calling) ∨
      (d'.lock = some ticket ∧ d'.calling = d.calling ++ [(ticket, .enabled)] ∧
        d'.result? ticket = d.result? ticket)) :
    Ledger (events ++ [.grant ticket]) d' := by
  have hmodes : modes (events ++ [.grant ticket]) = modes events :=
    modes_concat_of_ticket (rfl : Event.ticket? (.grant ticket) = some ticket)
  have hgranted := granted_concat_grant events ticket
  obtain ⟨hmode, htrail⟩ := h.waiting ticket waits
  have hown : trail (events ++ [.grant ticket]) ticket = [.grant ticket] := by
    rw [trail_concat_self rfl, htrail, List.nil_append]
  have hothers : ∀ t, t ≠ ticket → trail (events ++ [.grant ticket]) t = trail events t :=
    fun t ht => trail_concat_of_ne (by simp [Event.ticket?, ht.symm])
  -- No refresh is in flight, so those of the new desk are at most this one.
  have hidle : ∀ t, (t, .enabled) ∉ d.calling := by
    intro t ht
    have := (h.lock t).mpr ht
    rw [free] at this
    cases this
  have hcalling : ∀ {t m}, (t, m) ∈ d'.calling → (t, m) ∈ d.calling ∨
      (t = ticket ∧ m = .enabled ∧ d'.result? ticket = d.result? ticket) := by
    intro t m ht
    rcases place with ⟨-, hc⟩ | ⟨-, hc, hr⟩
    · exact Or.inl (hc ▸ ht)
    · rw [hc, List.mem_append, List.mem_singleton, Prod.mk.injEq] at ht
      exact ht.imp_right fun ⟨ht, hm⟩ => ⟨ht, hm, hr⟩
  constructor
  · rw [arrived, hmodes]
    exact h.arrived
  · intro t ht
    rw [arrived] at ht
    have hne : t ≠ ticket := by
      rintro rfl
      exact absurd (h.lt_arrived hmode) (Nat.not_lt.mpr ht)
    rw [hothers t hne]
    exact h.ahead t ht
  · intro t ht
    rw [waiting, h.waiting_nodup.mem_erase_iff] at ht
    rw [hmodes, hothers t ht.1]
    exact h.waiting t ht.2
  · -- The call of the granted request is the only one whose trail has grown.
    intro t m ht
    rw [hmodes]
    rcases hcalling ht with ht | ⟨rfl, rfl, -⟩
    · have hne : t ≠ ticket := by
        rintro rfl
        exact h.not_calling_of_waiting waits m ht
      rw [hothers t hne]
      exact h.calling t m ht
    · exact ⟨hmode, hown⟩
  · rw [waiting]
    exact h.waiting_nodup.erase _
  · rcases place with ⟨-, hc⟩ | ⟨-, hc, -⟩
    · rw [hc]
      exact h.calling_nodup
    · rw [hc, ← List.concat_eq_append]
      exact h.calling_nodup.concat (hidle _)
  · -- The cache was free, so at most the granted request holds it now.
    intro t
    rcases place with ⟨hl, hc⟩ | ⟨hl, hc, -⟩
    · rw [hl, hc]
      simpa using hidle t
    · rw [hl, hc]
      simp [hidle t, eq_comm]
  · -- A request without a trail is another one; one that refreshes has just been granted the cache.
    intro t ht
    rcases ht with ht | ht
    · have hne : t ≠ ticket := by
        rintro rfl
        rw [hown] at ht
        cases ht
      rw [hothers t hne] at ht
      rw [result t hne]
      exact h.unanswered t (Or.inl ht)
    · rcases hcalling ht with ht | ⟨rfl, -, hr⟩
      · exact absurd ht (hidle t)
      · rw [hr]
        exact h.unanswered t (Or.inl htrail)
  · intro t ht
    rw [hgranted, List.mem_append, List.mem_singleton] at ht
    rw [hmodes]
    rcases ht with ht | rfl
    · exact h.granted_enabled t ht
    · exact hmode
  · rw [hgranted, ← List.concat_eq_append]
    exact h.granted_nodup.concat (not_granted_of_trail htrail)
  · intro t ht
    rw [hgranted, List.getLast?_concat]
    rcases place with ⟨hl, -⟩ | ⟨hl, -, -⟩
    · rw [hl] at ht
      cases ht
    · rw [← hl, ht]

/-- An answer or a drop: the request, which was waiting or had its call in flight, is gone from the
desk, and with it the hold that it may have had on the cache. -/
theorem close (h : Ledger events d) {e : Event} {ticket : Ticket} (about : e.ticket? = some ticket)
    (other : ∀ t, e ≠ .grant t) (known : ∃ mode, (modes events)[ticket]? = some mode)
    (arrived : d'.arrived = d.arrived)
    (waiting : d'.waiting.Sublist d.waiting) (left : ticket ∉ d'.waiting)
    (calling : d'.calling.Sublist d.calling) (quiet : ∀ mode, (ticket, mode) ∉ d'.calling)
    (lock : ∀ t, d'.lock = some t ↔ (t, .enabled) ∈ d'.calling)
    (result : ∀ t, t ≠ ticket → d'.result? t = d.result? t) :
    Ledger (events ++ [e]) d' := by
  have hmodes : modes (events ++ [e]) = modes events := modes_concat_of_ticket about
  have hgranted : granted (events ++ [e]) = granted events := granted_concat_of_ne other
  have hown : trail (events ++ [e]) ticket ≠ [] := by
    rw [trail_concat_self about]
    simp
  have hothers : ∀ t, t ≠ ticket → trail (events ++ [e]) t = trail events t :=
    fun t ht => trail_concat_of_ne (by simp [about, ht.symm])
  constructor
  · rw [arrived, hmodes]
    exact h.arrived
  · intro t ht
    rw [arrived] at ht
    have hne : t ≠ ticket := by
      rintro rfl
      obtain ⟨mode, hmode⟩ := known
      exact absurd (h.lt_arrived hmode) (Nat.not_lt.mpr ht)
    rw [hothers t hne]
    exact h.ahead t ht
  · -- Those that still wait are others, and so their trails are as they were.
    intro t ht
    rw [hmodes, hothers t (fun heq => left (heq ▸ ht))]
    exact h.waiting t (waiting.mem ht)
  · intro t m ht
    rw [hmodes, hothers t (fun heq => quiet m (heq ▸ ht))]
    exact h.calling t m (calling.mem ht)
  · exact h.waiting_nodup.sublist waiting
  · exact h.calling_nodup.sublist calling
  · exact lock
  · -- The request has a trail now and no call, so this is about others.
    intro t ht
    have hne : t ≠ ticket := by
      rintro rfl
      exact ht.elim hown (quiet _)
    rw [hothers t hne] at ht
    rw [result t hne]
    exact h.unanswered t (ht.imp_right calling.mem)
  · intro t ht
    rw [hgranted] at ht
    rw [hmodes]
    exact h.granted_enabled t ht
  · rw [hgranted]
    exact h.granted_nodup
  · -- Who holds the cache now has held it before.
    intro t ht
    rw [hgranted]
    exact h.latest t ((h.lock t).mpr (calling.mem ((lock t).mp ht)))

/-- Every step keeps the agreement. -/
theorem step [RandomSource σ] {e : Event} (h : Ledger events d) (hs : Step d e d') :
    Ledger (events ++ [e]) d' := by
  cases hs with
  | queue => exact h.arrive rfl rfl (fun _ => rfl) (Or.inl ⟨rfl, rfl, rfl⟩)
  | call => exact h.arrive rfl rfl (fun _ => rfl) (Or.inr ⟨rfl, rfl, rfl⟩)
  | hit waits free enters =>
    exact h.grant waits free rfl rfl (fun t ht => result?_of_answered_of_ne rfl ht)
      (Or.inl ⟨free, rfl⟩)
  | miss waits free enters =>
    exact h.grant waits free rfl rfl (fun _ _ => rfl) (Or.inr ⟨rfl, rfl, rfl⟩)
  | settle listing calls =>
    refine h.close rfl (by simp) ⟨_, (h.calling _ _ calls).1⟩ rfl (List.Sublist.refl _)
      (fun hw => h.not_calling_of_waiting hw _ calls) List.erase_sublist ?_ ?_
      (fun t ht => result?_of_answered_of_ne rfl ht)
    · exact h.not_mem_erase calls
    · exact h.lock_erase calls
  | pass listing other calls =>
    refine h.close rfl (by simp) ⟨_, (h.calling _ _ calls).1⟩ rfl (List.Sublist.refl _)
      (fun hw => h.not_calling_of_waiting hw _ calls) List.erase_sublist ?_ ?_
      (fun t ht => result?_of_answered_of_ne rfl ht)
    · exact h.not_mem_erase calls
    · exact h.lock_erase_disabled _
  | leave waits =>
    refine h.close rfl (by simp) ⟨_, (h.waiting _ waits).1⟩ rfl List.erase_sublist
      h.waiting_nodup.not_mem_erase (List.Sublist.refl _) ?_ h.lock (fun _ _ => rfl)
    exact h.not_calling_of_waiting waits
  | abandon other calls =>
    refine h.close rfl (by simp) ⟨_, (h.calling _ _ calls).1⟩ rfl (List.Sublist.refl _) other
      List.erase_sublist ?_ ?_ (fun _ _ => rfl)
    · exact h.not_mem_erase calls
    · exact h.lock_erase calls
  | hangUp other another calls =>
    refine h.close rfl (by simp) ⟨_, (h.calling _ _ calls).1⟩ rfl (List.Sublist.refl _) other
      List.erase_sublist ?_ ?_ (fun _ _ => rfl)
    · exact h.not_mem_erase calls
    · exact h.lock_erase_disabled _

end Ledger

/-- After every run of a new desk, the desk agrees with the events. -/
theorem run_ledger [RandomSource σ] {config : CacheConfig} {source : σ} {catalog : String}
    (h : (new config source catalog).run events = some d) : Ledger events d :=
  run_induction (Ledger.init config source catalog) (fun _ ih hs => ih.step hs) h

end

end Shortlist.Desk
