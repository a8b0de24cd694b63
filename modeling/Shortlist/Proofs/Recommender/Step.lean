import Shortlist.Proofs.Cache.Step
import Shortlist.Recommender.Reception

/-!
# The reception as a step relation

`Reception.Step` has one constructor for each thing that a possible event can do to a recommender
with requests under way, and `step_eq_some_iff` says that these are exactly the steps of
`Reception.step`. Where a request has its turn at the desk, it may still have no pool (`hold`), or
it fails with the desk's fault (`fail`), or it gets its pool and is answered (`deliver`).
-/

namespace Shortlist.Reception

/-- What an event by which a request may get its pool is at the desk, with the request's ticket. -/
def Event.turn? : Event → Option (Ticket × Desk.Event)
  | .grant ticket => some (ticket, .grant ticket)
  | .answer ticket listing => some (ticket, .answer ticket listing)
  | _ => none

variable {γ σ τ : Type} [FlagGate γ] [RandomSource σ] [RandomSource τ]

/-- What one event does to a recommender on which it is possible. -/
inductive Step (r : Reception γ σ τ) : Event → Reception γ σ τ → Prop
  /-- A request comes that cannot be read, and is answered at once. -/
  | refuse {user raws fault} (reads : Request.parse user raws = .error fault) :
    Step r (.come user raws) { r with
      came := r.came + 1
      answered := (r.came, .error fault) :: r.answered }
  /-- A request comes and is read. -/
  | enrol {user raws request} (reads : Request.parse user raws = .ok request) :
    Step r (.come user raws) { r with
      came := r.came + 1
      asking := r.asking ++ [(r.came, request)] }
  /-- A request that has been read comes and goes to the desk. -/
  | submit (request) : Step r (.submit request) (r.submit request)
  /-- The gate is asked for a request, which goes to the desk. -/
  | ask {number request enabled gate signals} (asks : r.asking.lookup number = some request)
      (gates : FlagGate.ask r.gate r.cacheFlag false = (enabled, gate, signals)) :
    Step r (.ask number) ({ r with
      gate
      asking := r.asking.filter (·.1 != number)
      log := r.log ++ signals }.send number (request.withMode (.ofBool enabled)))
  /-- A request is dropped before the gate has been asked. -/
  | leave {number request} (asks : r.asking.lookup number = some request) :
    Step r (.leave number) { r with asking := r.asking.filter (·.1 != number) }
  /-- The desk moves on, and its request has no pool yet. -/
  | hold {event ticket e desk} (turn : event.turn? = some (ticket, e))
      (moves : Desk.Step r.desk e desk)
      (waits : r.atDesk.lookup ticket = none ∨ desk.result? ticket = none) :
    Step r event (r.withDesk desk)
  /-- The desk moves on, and its request fails with the fault that the desk has for it. -/
  | fail {event ticket e desk number request fault} (turn : event.turn? = some (ticket, e))
      (moves : Desk.Step r.desk e desk) (asked : r.atDesk.lookup ticket = some (number, request))
      (result : desk.result? ticket = some (.error fault)) :
    Step r event { r.withDesk desk with
      atDesk := r.atDesk.filter (·.1 != ticket)
      answered := (number, .error fault) :: r.answered }
  /-- The desk moves on, and its request has its pool and is answered. -/
  | deliver {event ticket e desk number request pool selection selector}
      (turn : event.turn? = some (ticket, e))
      (moves : Desk.Step r.desk e desk) (asked : r.atDesk.lookup ticket = some (number, request))
      (result : desk.result? ticket = some (.ok pool))
      (selects : r.selector.select pool request.exclude = (selection, selector)) :
    Step r event { r.withDesk desk with
      selector
      atDesk := r.atDesk.filter (·.1 != ticket)
      answered := (number, .ok selection.products) :: r.answered
      log := (r.withDesk desk).log ++
        [.recommended request.user pool.length selection.available selection.products] }
  /-- A request at the desk is dropped. -/
  | drop {ticket desk} (moves : Desk.Step r.desk (.drop ticket) desk) :
    Step r (.drop ticket) { r.withDesk desk with atDesk := r.atDesk.filter (·.1 != ticket) }

/-- What a request's turn at the desk does is a step. -/
theorem Step.of_stepDesk {r r' : Reception γ σ τ} {event : Event} {ticket : Ticket}
    {e : Desk.Event} (turn : event.turn? = some (ticket, e)) (h : r.stepDesk ticket e = some r') :
    Step r event r' := by
  rw [stepDesk, Option.map_eq_some_iff] at h
  obtain ⟨desk, hmoves, rfl⟩ := h
  have moves := Desk.Step.of_step hmoves
  simp only [serve]
  split
  · rename_i hasked hresult
    exact .fail turn moves hasked hresult
  · rename_i hasked hresult
    exact .deliver turn moves hasked hresult rfl
  · -- The request is not known here, or it has no result.
    rename_i hnofault hnopool
    refine .hold turn moves ?_
    rcases hlookup : r.atDesk.lookup ticket with _ | ⟨number, request⟩
    · exact Or.inl rfl
    · rcases hresult : desk.result? ticket with _ | fault | pool
      · exact Or.inr rfl
      · exact absurd hresult (hnofault number request fault hlookup)
      · exact absurd hresult (hnopool number request pool hlookup)

/-- What `Reception.step` does is a step. -/
theorem Step.of_step {r r' : Reception γ σ τ} {event : Event} (h : r.step event = some r') :
    Step r event r' := by
  cases event with
  | come user raws =>
    obtain rfl := Option.some.inj h
    rw [come]
    split
    · rename_i hreads
      exact .refuse hreads
    · rename_i hreads
      exact .enrol hreads
  | submit request =>
    obtain rfl := Option.some.inj h
    exact .submit request
  | ask number =>
    simp only [step, Reception.ask] at h
    split at h
    · cases h
    · rename_i hasks
      obtain rfl := Option.some.inj h
      exact .ask hasks rfl
  | leave number =>
    simp only [step, Reception.leave] at h
    split at h
    · rename_i hasks
      obtain rfl := Option.some.inj h
      obtain ⟨request, hrequest⟩ := Option.isSome_iff_exists.mp hasks
      exact .leave hrequest
    · cases h
  | grant ticket => exact .of_stepDesk rfl h
  | answer ticket listing => exact .of_stepDesk rfl h
  | drop ticket =>
    rw [step, Option.map_eq_some_iff] at h
    obtain ⟨desk, hmoves, rfl⟩ := h
    exact .drop (Desk.Step.of_step hmoves)

/-- A turn at the desk is taken by `stepDesk`. -/
theorem step_of_turn {r : Reception γ σ τ} {event : Event} {ticket : Ticket} {e : Desk.Event}
    (turn : event.turn? = some (ticket, e)) : r.step event = r.stepDesk ticket e := by
  cases event with
  | grant | answer =>
    obtain ⟨rfl, rfl⟩ := Prod.mk.inj (Option.some.inj turn)
    rfl
  | _ => cases turn

/-- The steps of the relation are exactly those that `Reception.step` takes. -/
theorem step_eq_some_iff {r r' : Reception γ σ τ} {event : Event} :
    r.step event = some r' ↔ Step r event r' := by
  refine ⟨Step.of_step, ?_⟩
  intro h
  cases h with
  | refuse reads => simp [step, come, reads]
  | enrol reads => simp [step, come, reads]
  | submit request => rfl
  | ask asks gates => simp [step, Reception.ask, asks, gates]
  | leave asks => simp [step, Reception.leave, asks]
  | hold turn moves waits =>
    rw [step_of_turn turn, stepDesk, Desk.step_eq_some_iff.mpr moves]
    rcases waits with waits | waits <;> simp [serve, withDesk, waits]
  | fail turn moves asked result =>
    rw [step_of_turn turn, stepDesk, Desk.step_eq_some_iff.mpr moves]
    simp [serve, withDesk, asked, result]
  | deliver turn moves asked result selects =>
    rw [step_of_turn turn, stepDesk, Desk.step_eq_some_iff.mpr moves]
    simp [serve, withDesk, asked, result, selects]
  | drop moves => rw [step, Desk.step_eq_some_iff.mpr moves, Option.map_some]

/-- A run that goes on from where another ends makes one run with it. -/
theorem run_trans {r r₁ r₂ : Reception γ σ τ} {earlier later : List Event}
    (h₁ : r.run earlier = some r₁) (h₂ : r₁.run later = some r₂) :
    r.run (earlier ++ later) = some r₂ := by
  unfold run at h₁ h₂ ⊢
  rw [foldlM_append_eq_bind, h₁]
  exact h₂

/-- What holds at the start of a run and is preserved by each of its steps holds at its end. -/
theorem run_induction {start : Reception γ σ τ} {P : List Event → Reception γ σ τ → Prop}
    (init : P [] start)
    (next : ∀ {events r event r'}, start.run events = some r → P events r → Step r event r' →
      P (events ++ [event]) r')
    {events : List Event} {r : Reception γ σ τ} (h : start.run events = some r) : P events r :=
  foldlM_induction init (fun hrun ih hstep => next hrun ih (Step.of_step hstep)) h

end Shortlist.Reception
