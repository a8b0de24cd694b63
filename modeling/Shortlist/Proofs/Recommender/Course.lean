import Shortlist.Proofs.Recommender.Docket
import Shortlist.Proofs.Selection.Draw

/-!
# The course of a request

A request that has gone to the desk takes a `Course`: it is there until the desk has its result or
it is dropped. Then it is closed: it will not be open at the desk again nor under way here, and
neither its result nor its answer changes any more (`Closed.step`). At every time its answer is
`Settled` by its result (`run_settled`): there is none without a result, a fault is passed on, and
for a pool it is drawn from that pool.
-/

namespace Shortlist.Reception

variable {γ σ τ : Type}

/-- A request that is over, at the desk as well as here. -/
structure Closed (r : Reception γ σ τ) (ticket : Ticket) (number : Nat) : Prop where
  not_open : ¬ r.desk.Open ticket
  arrived : ticket < r.desk.arrived
  not_pending : number ∉ r.pending
  came : number < r.came

/-- The answer to a request is what the desk's result for it says: none, its fault, or products that
a selector of `count` draws from its pool. -/
def Settled [RandomSource τ] (r : Reception γ σ τ) (count : Nat) (ticket : Ticket) (number : Nat)
    (request : Request) : Prop :=
  match r.desk.result? ticket with
  | none => r.result? number = none
  | some (.error fault) => r.result? number = some (.error fault)
  | some (.ok pool) => ∃ selector : Selector τ, selector.count = count ∧
      r.result? number = some (.ok (selector.select pool request.exclude).1.products)

/-- Where a request is that has gone to the desk. -/
def Course [RandomSource τ] (r : Reception γ σ τ) (count : Nat) (ticket : Ticket) (number : Nat)
    (request : Request) : Prop :=
  (ticket, number, request) ∈ r.atDesk ∨
    r.Closed ticket number ∧ r.Settled count ticket number request

section

variable {r r' : Reception γ σ τ} {count : Nat} {ticket : Ticket} {number : Nat}
  {request : Request}

section

variable [RandomSource τ]

/-- Without a result there is no answer. -/
theorem Settled.of_none (result : r.desk.result? ticket = none)
    (answer : r.result? number = none) : r.Settled count ticket number request := by
  rw [Settled, result]
  exact answer

/-- A fault is passed on. -/
theorem Settled.of_error {fault : Fault} (result : r.desk.result? ticket = some (.error fault))
    (answer : r.result? number = some (.error fault)) :
    r.Settled count ticket number request := by
  rw [Settled, result]
  exact answer

/-- A pool is drawn from. -/
theorem Settled.of_ok {pool : List ProductId} (result : r.desk.result? ticket = some (.ok pool))
    (selector : Selector τ) (hcount : selector.count = count)
    (answer : r.result? number = some (.ok (selector.select pool request.exclude).1.products)) :
    r.Settled count ticket number request := by
  rw [Settled, result]
  exact ⟨selector, hcount, answer⟩

/-- A request on its course has the answer that its result says. -/
theorem Course.settled (h : r.Course count ticket number request) (hd : Docket r) :
    r.Settled count ticket number request := by
  rcases h with hm | ⟨-, hsettled⟩
  · obtain ⟨events, hledger⟩ := hd.ledger
    exact Settled.of_none (hledger.result?_of_open (hd.opened _ _ _ hm))
      (hd.unanswered number (Or.inl (Docket.mem_pending hm)))
  · exact hsettled

end

variable [FlagGate γ] [RandomSource σ] [RandomSource τ] {event : Event}

/-- A step moves the desk by a step or leaves it. -/
theorem Step.desk_cases (hs : Step r event r') :
    r'.desk = r.desk ∨ ∃ e, Desk.Step r.desk e r'.desk := by
  cases hs with
  | submit request => exact Or.inr ⟨.arrive _, Desk.Step.of_step rfl⟩
  | ask => exact Or.inr ⟨.arrive _, Desk.Step.of_step rfl⟩
  | hold turn moves => exact Or.inr ⟨_, moves⟩
  | fail turn moves => exact Or.inr ⟨_, moves⟩
  | deliver turn moves => exact Or.inr ⟨_, moves⟩
  | drop moves => exact Or.inr ⟨_, moves⟩
  | _ => exact Or.inl rfl

/-- The selector goes on drawing the same number. -/
theorem Step.selector_count (hs : Step r event r') : r'.selector.count = r.selector.count := by
  cases hs with
  | deliver turn moves asked result selects =>
    exact (congrArg (fun selected => selected.2.count) selects).symm
  | _ => rfl

/-- After a step the requests under way are among those before and the one that comes. -/
theorem Step.pending_subset (hs : Step r event r') :
    r.came ≤ r'.came ∧ ∀ n ∈ r'.pending, n ∈ r.pending ∨ n = r.came := by
  cases hs with
  | refuse => exact ⟨Nat.le_succ _, fun n hn => Or.inl hn⟩
  | enrol reads =>
    refine ⟨Nat.le_succ _, ?_⟩
    intro n hn
    rw [pending, List.map_append, List.append_assoc] at hn
    rcases List.mem_append.mp hn with hn | hn
    · exact Or.inl (List.mem_append_left _ hn)
    · rcases List.mem_cons.mp hn with rfl | hn
      · exact Or.inr rfl
      · exact Or.inl (List.mem_append_right _ hn)
  | submit request =>
    refine ⟨Nat.le_succ _, ?_⟩
    intro n hn
    rcases List.mem_append.mp hn with hn | hn
    · exact Or.inl (List.mem_append_left _ hn)
    · rcases List.mem_cons.mp hn with rfl | hn
      · exact Or.inr rfl
      · exact Or.inl (List.mem_append_right _ hn)
  | ask asks gates =>
    refine ⟨Nat.le_refl _, ?_⟩
    intro n hn
    rw [pending, List.mem_append] at hn
    rcases hn with hn | hn
    · exact Or.inl (List.mem_append_left _ ((List.filter_sublist.map _).mem hn))
    · rcases List.mem_cons.mp hn with rfl | hn
      · exact Or.inl (List.mem_append_left _ (List.mem_map.mpr ⟨_, mem_of_lookup asks, rfl⟩))
      · exact Or.inl (List.mem_append_right _ hn)
  | leave asks =>
    refine ⟨Nat.le_refl _, ?_⟩
    intro n hn
    exact Or.inl (((List.filter_sublist.map _).append (List.Sublist.refl _)).mem hn)
  | hold => exact ⟨Nat.le_refl _, fun n hn => Or.inl hn⟩
  | fail | deliver | drop =>
    refine ⟨Nat.le_refl _, ?_⟩
    intro n hn
    exact Or.inl (((List.Sublist.refl _).append (List.filter_sublist.map _)).mem hn)

/-- A step answers no other request than one that was under way or comes. -/
theorem Step.result?_eq (hs : Step r event r') {n : Nat} (hpending : n ∉ r.pending)
    (hcame : n < r.came) : r'.result? n = r.result? n := by
  have hdesk : ∀ {t m q}, r.atDesk.lookup t = some (m, q) → n ≠ m := by
    rintro t m q hlookup rfl
    exact hpending (Docket.mem_pending (mem_of_lookup hlookup))
  cases hs with
  | refuse => exact result?_of_answered_of_ne rfl (Nat.ne_of_lt hcame)
  | fail turn moves asked => exact result?_of_answered_of_ne rfl (hdesk asked)
  | deliver turn moves asked => exact result?_of_answered_of_ne rfl (hdesk asked)
  | _ => rfl

/-- A request that is over stays so and keeps its result and its answer. -/
theorem Closed.step (h : r.Closed ticket number) (hs : Step r event r') :
    r'.Closed ticket number ∧ r'.desk.result? ticket = r.desk.result? ticket ∧
      r'.result? number = r.result? number := by
  obtain ⟨hcame, hsubset⟩ := hs.pending_subset
  have hpending : number ∉ r'.pending := by
    intro hn
    rcases hsubset number hn with hn | hn
    · exact h.not_pending hn
    · exact Nat.ne_of_lt h.came hn
  have hlt : number < r'.came := Nat.lt_of_lt_of_le h.came hcame
  have hanswer := hs.result?_eq h.not_pending h.came
  -- The desk reopens no request, whatever the step does there.
  rcases hs.desk_cases with hdesk | ⟨e, hmoves⟩
  · rw [hdesk]
    exact ⟨⟨hdesk ▸ h.not_open, hdesk ▸ h.arrived, hpending, hlt⟩, rfl, hanswer⟩
  · obtain ⟨hnot, hresult⟩ := hmoves.closed_stable h.not_open h.arrived
    have harrived := Nat.lt_of_lt_of_le h.arrived hmoves.arrived_le
    exact ⟨⟨hnot, harrived, hpending, hlt⟩, hresult, hanswer⟩

/-- A request that leaves the desk is over. -/
theorem Docket.closed_of_step (h : Docket r) (hs : Step r event r')
    (hm : (ticket, number, request) ∈ r.atDesk) (hopen : ¬ r'.desk.Open ticket)
    (hpending : number ∉ r'.pending) : r'.Closed ticket number := by
  obtain ⟨events, hledger⟩ := h.ledger
  have harrived := hledger.lt_arrived_of_open (h.opened _ _ _ hm)
  refine ⟨hopen, ?_, hpending,
    Nat.lt_of_lt_of_le (h.came _ (mem_pending hm)) hs.pending_subset.1⟩
  rcases hs.desk_cases with hdesk | ⟨e, hmoves⟩
  · rwa [hdesk]
  · exact Nat.lt_of_lt_of_le harrived hmoves.arrived_le

/-- Where a request gets its result at the desk and its answer here, it is over and settled, and
every other request keeps its place. -/
theorem Docket.course_of_answer (h : Docket r) (hs : Step r event r')
    (hm : (ticket, number, request) ∈ r.atDesk) {t : Ticket} {n : Nat} {q : Request}
    (asked : (t, n, q) ∈ r.atDesk) (atDesk : r'.atDesk = r.atDesk.filter (·.1 != t)) {a : Answer}
    (answered : r'.answered = (n, a) :: r.answered) (result : (r'.desk.result? t).isSome)
    (settled : r'.result? n = some a → r'.Settled count t n q) :
    r'.Course count ticket number request := by
  by_cases ht : ticket = t
  · subst ht
    obtain ⟨rfl, rfl⟩ := h.eq_of_ticket asked hm
    have hanswer := result?_of_answered answered
    have h' := h.step hs
    obtain ⟨events, hledger⟩ := h'.ledger
    refine Or.inr ⟨h.closed_of_step hs hm ?_ ?_, settled hanswer⟩
    · -- An open request would have no result, and one under way no answer.
      intro hopen
      rw [hledger.result?_of_open hopen] at result
      cases result
    · intro hn
      rw [h'.unanswered n (Or.inl hn)] at hanswer
      cases hanswer
  · refine Or.inl ?_
    rw [atDesk]
    exact List.mem_filter.mpr ⟨hm, bne_iff_ne.mpr ht⟩

/-- Every step keeps a request on its course. -/
theorem Course.step (h : r.Course r.selector.count ticket number request) (hd : Docket r)
    (hs : Step r event r') : r'.Course r'.selector.count ticket number request := by
  rcases h with hm | ⟨hclosed, hsettled⟩
  · have hs' := hs
    cases hs with
    | submit request => exact Or.inl (List.mem_cons_of_mem _ hm)
    | ask => exact Or.inl (List.mem_cons_of_mem _ hm)
    | @fail event t e desk n q fault turn moves asked result =>
      refine hd.course_of_answer hs' hm (mem_of_lookup asked) rfl rfl
        (by rw [Option.isSome_iff_exists]; exact ⟨_, result⟩) ?_
      intro hanswer
      exact Settled.of_error result hanswer
    | @deliver event t e desk n q pool selection selector turn moves asked result selects =>
      refine hd.course_of_answer hs' hm (mem_of_lookup asked) rfl rfl
        (by rw [Option.isSome_iff_exists]; exact ⟨_, result⟩) ?_
      intro hanswer
      refine Settled.of_ok result r.selector hs'.selector_count.symm ?_
      rw [selects]
      exact hanswer
    | @drop t desk moves =>
      -- A request that is dropped is over with neither a result nor an answer.
      by_cases ht : ticket = t
      · subst ht
        obtain ⟨events, hledger⟩ := hd.ledger
        obtain ⟨hnot, hnone⟩ := hledger.closed_of_drop moves
        refine Or.inr ⟨hd.closed_of_step hs' hm hnot (hd.not_pending hm), ?_⟩
        exact Settled.of_none hnone (hd.unanswered number (Or.inl (Docket.mem_pending hm)))
      · exact Or.inl (List.mem_filter.mpr ⟨hm, bne_iff_ne.mpr ht⟩)
    | _ => exact Or.inl hm
  · -- A request that is over has been settled for good.
    obtain ⟨hclosed', hresult, hanswer⟩ := hclosed.step hs
    refine Or.inr ⟨hclosed', ?_⟩
    rw [Settled, hresult, hanswer, hs.selector_count]
    exact hsettled

end

section

variable [FlagGate γ] [RandomSource σ] [RandomSource τ] {gate : γ} {cacheFlag : String}
  {config : CacheConfig} {source : σ} {catalog : String} {selector : Selector τ}

/-- After every run the requests under way are well kept, and the selector draws the same number. -/
theorem run_docket {events : List Event} {r : Reception γ σ τ}
    (h : (new gate cacheFlag (Desk.new config source catalog) selector).run events = some r) :
    Docket r ∧ r.selector.count = selector.count := by
  refine run_induction (P := fun _ r => Docket r ∧ r.selector.count = selector.count) ?_ ?_ h
  · exact ⟨Docket.init gate cacheFlag config source catalog selector, rfl⟩
  · rintro events r event r' - ⟨hdocket, hcount⟩ hs
    exact ⟨hdocket.step hs, hs.selector_count.trans hcount⟩

/-- From when a request has gone to the desk, its answer is at every time settled by its result. -/
theorem run_settled {earlier later : List Event} {r₁ r₂ : Reception γ σ τ}
    (h₁ : (new gate cacheFlag (Desk.new config source catalog) selector).run earlier = some r₁)
    (h₂ : r₁.run later = some r₂) {ticket : Ticket} {number : Nat} {request : Request}
    (hm : (ticket, number, request) ∈ r₁.atDesk) :
    r₂.Settled selector.count ticket number request := by
  obtain ⟨hdocket₁, -⟩ := run_docket h₁
  have hcourse : Docket r₂ ∧ r₂.Course r₂.selector.count ticket number request := by
    refine run_induction (P := fun _ r =>
      Docket r ∧ r.Course r.selector.count ticket number request) ⟨hdocket₁, Or.inl hm⟩ ?_ h₂
    rintro events r event r' - ⟨hdocket, hcourse⟩ hs
    exact ⟨hdocket.step hs, hcourse.step hdocket hs⟩
  rw [← (run_docket (run_trans h₁ h₂)).2]
  exact hcourse.2.settled hcourse.1

end

end Shortlist.Reception
