import Shortlist.Proofs.Cache.Open
import Shortlist.Proofs.Recommender.Step

/-!
# The requests under way on a recommender

A request has a number from when it comes, and a ticket from when it goes to the desk. `Docket` says
how the two are kept: a request that is at the desk for the recommender is open there, nobody shares
a number or a ticket, and only requests that are no longer under way have an answer. The docket of
a recommender without requests is kept (`Docket.init`), and every step keeps it (`Docket.step`).
-/

namespace Shortlist.Reception

/-- A turn at the desk is about its request and does not drop it. -/
theorem Event.ticket?_of_turn {event : Event} {ticket : Ticket} {e : Desk.Event}
    (h : event.turn? = some (ticket, e)) : e.ticket? = some ticket ∧ e ≠ .drop ticket := by
  cases event with
  | grant | answer =>
    obtain ⟨rfl, rfl⟩ := Prod.mk.inj (Option.some.inj h)
    exact ⟨rfl, by simp⟩
  | _ => cases h

variable {γ σ τ : Type}

/-- The numbers of the requests under way. -/
def pending (r : Reception γ σ τ) : List Nat := r.asking.map (·.1) ++ r.atDesk.map (·.2.1)

variable {r r' : Reception γ σ τ} {ticket : Ticket} {number : Nat} {request : Request}

/-- A new answer is that of its request. -/
theorem result?_of_answered {a : Answer} (h : r'.answered = (number, a) :: r.answered) :
    r'.result? number = some a := by
  rw [result?, h, List.lookup_cons_self]

/-- A new answer leaves those of all other requests. -/
theorem result?_of_answered_of_ne {n : Nat} {a : Answer}
    (h : r'.answered = (number, a) :: r.answered) (hn : n ≠ number) :
    r'.result? n = r.result? n := by
  rw [result?, h, List.lookup_cons, beq_false_of_ne hn]
  rfl

/-- A request that is looked up is there. -/
theorem mem_of_lookup {β : Type} {xs : List (Nat × β)} {n : Nat} {b : β}
    (h : xs.lookup n = some b) : (n, b) ∈ xs := by
  obtain ⟨before, after, rfl, -⟩ := List.lookup_eq_some_iff.mp h
  simp

/-- How the requests under way are kept. -/
structure Docket (r : Reception γ σ τ) : Prop where
  /-- The desk agrees with the events that led to it. -/
  ledger : ∃ events, Desk.Ledger events r.desk
  /-- A request that is at the desk is open there. -/
  opened : ∀ t n q, (t, n, q) ∈ r.atDesk → r.desk.Open t
  tickets : (r.atDesk.map (·.1)).Nodup
  numbers : r.pending.Nodup
  /-- A request under way has come. -/
  came : ∀ n ∈ r.pending, n < r.came
  /-- A request that is under way or has not come has no answer. -/
  unanswered : ∀ n, n ∈ r.pending ∨ r.came ≤ n → r.result? n = none

namespace Docket

/-- A request at the desk is under way. -/
theorem mem_pending (hm : (ticket, number, request) ∈ r.atDesk) : number ∈ r.pending :=
  List.mem_append_right _ (List.mem_map.mpr ⟨_, hm, rfl⟩)

/-- At the desk a number belongs to one request. -/
theorem eq_of_number (h : Docket r) {t t' : Ticket} {n : Nat} {q q' : Request}
    (hm : (t, n, q) ∈ r.atDesk) (hm' : (t', n, q') ∈ r.atDesk) : t = t' :=
  congrArg Prod.fst (List.inj_on_of_nodup_map (List.nodup_append.mp h.numbers).2.1 hm hm' rfl)

/-- At the desk a ticket belongs to one request. -/
theorem eq_of_ticket (h : Docket r) {t : Ticket} {n n' : Nat} {q q' : Request}
    (hm : (t, n, q) ∈ r.atDesk) (hm' : (t, n', q') ∈ r.atDesk) : n = n' ∧ q = q' := by
  have heq := List.inj_on_of_nodup_map h.tickets hm hm' rfl
  exact Prod.mk.inj (Prod.mk.inj heq).2

/-- Once it has been taken from the desk, a request is no longer under way. -/
theorem not_pending (h : Docket r) (hm : (ticket, number, request) ∈ r.atDesk) :
    number ∉ r.asking.map (·.1) ++ (r.atDesk.filter (·.1 != ticket)).map (·.2.1) := by
  obtain ⟨-, -, hdisjoint⟩ := List.nodup_append.mp h.numbers
  rw [List.mem_append]
  rintro (hasking | hdesk)
  · exact hdisjoint _ hasking _ (List.mem_map.mpr ⟨_, hm, rfl⟩) rfl
  · obtain ⟨⟨t, n, q⟩, hmem, rfl⟩ := List.mem_map.mp hdesk
    obtain ⟨hmem, hne⟩ := List.mem_filter.mp hmem
    exact bne_iff_ne.mp hne (h.eq_of_number hmem hm)

/-- A recommender without requests. -/
theorem init (gate : γ) (cacheFlag : String) (config : CacheConfig) (source : σ)
    (catalog : String) (selector : Selector τ) :
    Docket (new gate cacheFlag (Desk.new config source catalog) selector) where
  ledger := ⟨[], Desk.Ledger.init config source catalog⟩
  opened t n q hm := by cases hm
  tickets := List.nodup_nil
  numbers := List.nodup_nil
  came n hn := by cases hn
  unanswered n _ := rfl

/-- A request goes to the desk, either one that was asked for or a new one. -/
theorem send [RandomSource σ] (h : Docket r) {mode : CacheMode}
    (moves : Desk.Step r.desk (.arrive mode) r'.desk)
    (atDesk : r'.atDesk = (r.desk.arrived, number, request) :: r.atDesk)
    (asking : r'.asking.Sublist r.asking) (answered : r'.answered = r.answered)
    (came : r.came ≤ r'.came) (lt : number < r'.came) (left : number ∉ r'.asking.map (·.1))
    (other : number ∉ r.atDesk.map (·.2.1)) (unanswered : r.result? number = none) :
    Docket r' := by
  obtain ⟨events, hledger⟩ := h.ledger
  have hresult : ∀ n, r'.result? n = r.result? n := fun n => by rw [result?, answered, result?]
  have hsub : (r'.asking.map (·.1) ++ r.atDesk.map (·.2.1)).Sublist r.pending :=
    (asking.map _).append (List.Sublist.refl _)
  have hperm : r'.pending.Perm (number :: (r'.asking.map (·.1) ++ r.atDesk.map (·.2.1))) := by
    rw [pending, atDesk]
    exact List.perm_middle
  have hpending : ∀ n ∈ r'.pending, n = number ∨ n ∈ r.pending := by
    intro n hn
    exact (List.mem_cons.mp (hperm.mem_iff.mp hn)).imp_right hsub.mem
  constructor
  · exact ⟨_, hledger.step moves⟩
  · -- The arrival opens its request and leaves all others.
    intro t n q hm
    rw [atDesk, List.mem_cons] at hm
    rcases hm with hm | hm
    · obtain ⟨rfl, -⟩ := Prod.mk.inj hm
      exact moves.open_arrived.1
    · have hopen := h.opened t n q hm
      exact (moves.open_iff (by simp [Desk.Event.ticket?])
        (Nat.ne_of_lt (hledger.lt_arrived_of_open hopen))).mpr hopen
  · -- The ticket is new, since those at the desk have arrived before.
    rw [atDesk, List.map_cons, List.nodup_cons]
    refine ⟨?_, h.tickets⟩
    intro hticket
    obtain ⟨⟨t, n, q⟩, hm, rfl⟩ := List.mem_map.mp hticket
    exact Nat.lt_irrefl _ (hledger.lt_arrived_of_open (h.opened _ n q hm))
  · rw [hperm.nodup_iff, List.nodup_cons, List.mem_append]
    exact ⟨fun hn => hn.elim left other, h.numbers.sublist hsub⟩
  · intro n hn
    rcases hpending n hn with rfl | hn
    · exact lt
    · exact Nat.lt_of_lt_of_le (h.came n hn) came
  · intro n hn
    rw [hresult]
    rcases hn with hn | hn
    · rcases hpending n hn with rfl | hn
      · exact unanswered
      · exact h.unanswered n (Or.inl hn)
    · exact h.unanswered n (Or.inr (Nat.le_trans came hn))

/-- The desk moves on, and its request leaves it. -/
theorem close [RandomSource σ] (h : Docket r) {e : Desk.Event} (about : e.ticket? = some ticket)
    (moves : Desk.Step r.desk e r'.desk) (asking : r'.asking = r.asking)
    (atDesk : r'.atDesk = r.atDesk.filter (·.1 != ticket)) (came : r'.came = r.came)
    (result : ∀ n, n ∈ r'.pending ∨ r'.came ≤ n → r'.result? n = r.result? n) : Docket r' := by
  obtain ⟨events, hledger⟩ := h.ledger
  have hdesk : r'.atDesk.Sublist r.atDesk := atDesk ▸ List.filter_sublist
  have hpending : r'.pending.Sublist r.pending := by
    rw [pending, asking]
    exact (List.Sublist.refl _).append (hdesk.map _)
  constructor
  · exact ⟨_, hledger.step moves⟩
  · -- A request that stays has another ticket, so the step leaves it open.
    intro t n q hm
    rw [atDesk, List.mem_filter] at hm
    have hopen := h.opened t n q hm.1
    refine (moves.open_iff ?_ (Nat.ne_of_lt (hledger.lt_arrived_of_open hopen))).mpr hopen
    rw [about]
    intro heq
    exact bne_iff_ne.mp hm.2 (Option.some.inj heq).symm
  · exact h.tickets.sublist (hdesk.map _)
  · exact h.numbers.sublist hpending
  · intro n hn
    rw [came]
    exact h.came n (hpending.mem hn)
  · intro n hn
    rw [result n hn]
    rw [came] at hn
    exact h.unanswered n (hn.imp_left fun hn => hpending.mem hn)

/-- The desk moves on, and its request leaves it with an answer. -/
theorem answer [RandomSource σ] (h : Docket r) {e : Desk.Event} (about : e.ticket? = some ticket)
    (moves : Desk.Step r.desk e r'.desk) (asked : (ticket, number, request) ∈ r.atDesk)
    (asking : r'.asking = r.asking) (atDesk : r'.atDesk = r.atDesk.filter (·.1 != ticket))
    (came : r'.came = r.came) {a : Answer} (answered : r'.answered = (number, a) :: r.answered) :
    Docket r' := by
  refine h.close about moves asking atDesk came ?_
  intro n hn
  refine result?_of_answered_of_ne answered ?_
  rintro rfl
  rcases hn with hn | hn
  · rw [pending, asking, atDesk] at hn
    exact h.not_pending asked hn
  · rw [came] at hn
    exact absurd (h.came n (mem_pending asked)) (Nat.not_lt.mpr hn)

section

variable [FlagGate γ] [RandomSource σ] [RandomSource τ] {event : Event}

/-- Every step keeps the docket. -/
theorem step (h : Docket r) (hs : Step r event r') : Docket r' := by
  have hfresh : r.came ∉ r.pending := fun hn => Nat.lt_irrefl _ (h.came _ hn)
  cases hs with
  | refuse reads =>
    refine ⟨h.ledger, h.opened, h.tickets, h.numbers,
      fun n hn => Nat.lt_succ_of_lt (h.came n hn), ?_⟩
    intro n hn
    -- The request that comes is answered, but it is neither under way nor still to come.
    have hne : n ≠ r.came := by
      rintro rfl
      exact hn.elim hfresh (Nat.not_succ_le_self _)
    rw [result?_of_answered_of_ne (r := r) rfl hne]
    exact h.unanswered n (hn.imp_right Nat.le_of_succ_le)
  | @enrol user raws request reads =>
    have hperm : (Reception.pending { r with
        came := r.came + 1
        asking := r.asking ++ [(r.came, request)] }).Perm (r.came :: r.pending) := by
      simp only [Reception.pending, List.map_append, List.map_cons, List.map_nil,
        List.append_assoc, List.singleton_append]
      exact List.perm_middle
    refine ⟨h.ledger, h.opened, h.tickets, ?_, ?_, ?_⟩
    · exact hperm.nodup_iff.mpr (List.nodup_cons.mpr ⟨hfresh, h.numbers⟩)
    · intro n hn
      rcases List.mem_cons.mp (hperm.mem_iff.mp hn) with rfl | hn
      · exact Nat.lt_succ_self _
      · exact Nat.lt_succ_of_lt (h.came n hn)
    · intro n hn
      refine h.unanswered n ?_
      rcases hn with hn | hn
      · rcases List.mem_cons.mp (hperm.mem_iff.mp hn) with rfl | hn
        · exact Or.inr (Nat.le_refl _)
        · exact Or.inl hn
      · exact Or.inr (Nat.le_of_succ_le hn)
  | submit request =>
    exact h.send (Desk.Step.of_step rfl) rfl (List.Sublist.refl _) rfl (Nat.le_succ _)
      (Nat.lt_succ_self _) (fun hn => hfresh (List.mem_append_left _ hn))
      (fun hn => hfresh (List.mem_append_right _ hn)) (h.unanswered _ (Or.inr (Nat.le_refl _)))
  | @ask number request enabled gate signals asks gates =>
    have hasking : number ∈ r.asking.map (·.1) := List.mem_map.mpr ⟨_, mem_of_lookup asks, rfl⟩
    have hpending : number ∈ r.pending := List.mem_append_left _ hasking
    -- Its number moves from the requests that wait for the gate to those at the desk.
    refine h.send (Desk.Step.of_step rfl) rfl List.filter_sublist rfl (Nat.le_refl _)
      (h.came _ hpending) ?_ ?_ (h.unanswered _ (Or.inl hpending))
    · intro hn
      obtain ⟨⟨n, q⟩, hmem, rfl⟩ := List.mem_map.mp hn
      exact bne_iff_ne.mp (List.mem_filter.mp hmem).2 rfl
    · intro hn
      exact (List.nodup_append.mp h.numbers).2.2 _ hasking _ hn rfl
  | @leave number request asks =>
    have hsub : (Reception.pending { r with
        asking := r.asking.filter (·.1 != number) }).Sublist r.pending :=
      (List.filter_sublist.map _).append (List.Sublist.refl _)
    exact ⟨h.ledger, h.opened, h.tickets, h.numbers.sublist hsub,
      fun n hn => h.came n (hsub.mem hn),
      fun n hn => h.unanswered n (hn.imp_left fun hn => hsub.mem hn)⟩
  | @hold event ticket e desk turn moves waits =>
    obtain ⟨events, hledger⟩ := h.ledger
    obtain ⟨about, hdrop⟩ := Event.ticket?_of_turn turn
    refine ⟨⟨_, hledger.step moves⟩, ?_, h.tickets, h.numbers, h.came, h.unanswered⟩
    intro t n q hm
    have hopen := h.opened t n q hm
    by_cases ht : t = ticket
    · -- Its own request is open, since it has no result.
      subst ht
      rcases moves.open_or_result about hdrop with hstill | hresult
      · exact hstill
      · rcases waits with hlookup | hnone
        · exact absurd rfl (bne_iff_ne.mp (List.lookup_eq_none_iff.mp hlookup _ hm))
        · rw [hnone] at hresult
          cases hresult
    · refine (moves.open_iff ?_ (Nat.ne_of_lt (hledger.lt_arrived_of_open hopen))).mpr hopen
      rw [about]
      exact fun heq => ht (Option.some.inj heq).symm
  | fail turn moves asked result =>
    exact h.answer (Event.ticket?_of_turn turn).1 moves (mem_of_lookup asked) rfl rfl rfl rfl
  | deliver turn moves asked result selects =>
    exact h.answer (Event.ticket?_of_turn turn).1 moves (mem_of_lookup asked) rfl rfl rfl rfl
  | drop moves => exact h.close rfl moves rfl rfl rfl (fun _ _ => rfl)

end

end Docket

end Shortlist.Reception
