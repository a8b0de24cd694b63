import Shortlist.Proofs.Recommender.Step

/-!
# What requests do at the desk

A run of a recommender with requests under way is a run of its desk: a request that is submitted
arrives there with its mode, one that the gate is asked for with the mode that the gate decides, and
grants, answers and drops happen there as they are. `deskEvents` lists what happens at the desk, and
`run_desk` says that the desk follows it.
-/

namespace Shortlist.Reception

variable {γ σ τ : Type} [FlagGate γ]

/-- What an event is at the desk, if it is anything there. -/
def Event.desk? (r : Reception γ σ τ) : Event → Option Desk.Event
  | .come _ _ | .leave _ => none
  | .submit request => some (.arrive request.mode)
  | .ask _ => some (.arrive (.ofBool (FlagGate.ask r.gate r.cacheFlag false).1))
  | .grant ticket => some (.grant ticket)
  | .answer ticket listing => some (.answer ticket listing)
  | .drop ticket => some (.drop ticket)

variable [RandomSource σ] [RandomSource τ]

/-- What the events of a run are at the desk, as far as they are possible. -/
def deskEvents (r : Reception γ σ τ) (events : List Event) : List Desk.Event :=
  yielded step (fun r event _ => (event.desk? r).toList) r events

variable {r r' r'' : Reception γ σ τ} {event : Event} {events : List Event}

/-- One more event adds what it is at the desk. -/
theorem deskEvents_concat (h : r.run events = some r') (hs : Step r' event r'') :
    r.deskEvents (events ++ [event]) = r.deskEvents events ++ (event.desk? r').toList :=
  yielded_concat h (step_eq_some_iff.mpr hs)

/-- The desk takes the step that an event is there, and stays as it is if that is none. -/
theorem Step.desk_run (hs : Step r event r') :
    r.desk.run (event.desk? r).toList = some r'.desk := by
  cases hs with
  | ask asks gates =>
    rw [Event.desk?, gates]
    rfl
  | hold turn moves | fail turn moves | deliver turn moves =>
    cases event with
    | grant | answer =>
      obtain ⟨rfl, rfl⟩ := Prod.mk.inj (Option.some.inj turn)
      exact Option.bind_eq_some_iff.mpr ⟨_, Desk.step_eq_some_iff.mpr moves, rfl⟩
    | _ => cases turn
  | drop moves => exact Option.bind_eq_some_iff.mpr ⟨_, Desk.step_eq_some_iff.mpr moves, rfl⟩
  | _ => rfl

/-- The desk follows what happens at it. -/
theorem run_desk (h : r.run events = some r') :
    r.desk.run (r.deskEvents events) = some r'.desk := by
  refine run_induction (P := fun events r' => r.desk.run (r.deskEvents events) = some r'.desk)
    rfl ?_ h
  intro events r' event r'' hrun ih hs
  rw [deskEvents_concat hrun hs, Desk.run_append, ih]
  exact hs.desk_run

/-- Answers of the catalog happen at the desk just as they do. -/
theorem answer_mem_deskEvents {ticket : Ticket} {listing : Listing} (h : r.run events = some r') :
    .answer ticket listing ∈ r.deskEvents events ↔ .answer ticket listing ∈ events := by
  refine run_induction (P := fun events _ =>
    .answer ticket listing ∈ r.deskEvents events ↔ .answer ticket listing ∈ events) ?_ ?_ h
  · simp [deskEvents, yielded]
  · intro events r' event r'' hrun ih hs
    rw [deskEvents_concat hrun hs, List.mem_append, List.mem_append, ih]
    cases event <;> simp [Event.desk?]

end Shortlist.Reception
