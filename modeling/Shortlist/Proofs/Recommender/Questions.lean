import Shortlist.Proofs.Flags.Asking
import Shortlist.Proofs.Recommender.Log

/-!
# What a run asks the gate

Requests in flight together ask the gate for the flag of the cache, once with each event that asks,
and nothing else does. So the gate that a run leaves is the one that as many questions leave, asked
one after the other (`run_gate`), and what the log holds of flags is what these tell
(`run_log_ofFlag`), however the requests are interleaved.
-/

namespace Shortlist

/-- A signal that is not of a flag counts no default. -/
theorem Signal.value?_record_of_not_ofFlag {signal : Signal} (h : signal.ofFlag = false)
    (flag : String) (m : Metrics) :
    (m.record signal).value? (.flagFallbacks flag) = m.value? (.flagFallbacks flag) := by
  cases signal with
  | flagEvaluated | flagDefaulted => cases h
  | _ => simp [Metrics.record, Metrics.add, Metrics.set, Metrics.value?_change]

/-- Nothing that a desk logs is of a flag. -/
theorem Desk.filter_ofFlag_logged {σ : Type} [RandomSource σ] (d : Desk σ) (e : Desk.Event) :
    (d.logged e).filter Signal.ofFlag = [] := by
  rw [List.filter_eq_nil_iff]
  intro signal hsignal hflag
  have hdesk := d.ofDesk_of_mem_logged e signal hsignal
  rw [Signal.ofDesk_eq_false hflag] at hdesk
  cases hdesk

namespace Reception

/-- Whether an event asks the gate for any request. -/
def Event.isAsk : Event → Bool
  | .ask _ => true
  | _ => false

/-- A turn at the desk asks nothing. -/
theorem Event.isAsk_of_turn {event : Event} {ticket : Ticket} {e : Desk.Event}
    (turn : event.turn? = some (ticket, e)) : event.isAsk = false := by
  cases event with
  | ask number => cases turn
  | _ => rfl

/-- The questions that events ask, with one more event. -/
theorem replicate_isAsk_concat (events : List Event) (event : Event) (question : String × Bool) :
    List.replicate ((events ++ [event]).countP Event.isAsk) question =
      List.replicate (events.countP Event.isAsk) question ++
        if event.isAsk then [question] else [] := by
  rw [List.countP_append, List.countP_singleton, List.replicate_add]
  cases event.isAsk <;> rfl

variable {γ σ τ : Type} [RandomSource σ] {r r' : Reception γ σ τ} {event : Event}

/-- The desk adds nothing to what the log holds of flags. -/
theorem filter_ofFlag_withDesk {e : Desk.Event} {desk : Desk σ}
    (moves : Desk.Step r.desk e desk) :
    (r.withDesk desk).log.filter Signal.ofFlag = r.log.filter Signal.ofFlag := by
  rw [withDesk_log moves, List.filter_append, Desk.filter_ofFlag_logged, List.append_nil]

/-- Nor does a request that goes to the desk. -/
theorem filter_ofFlag_send (number : Nat) (request : Request) :
    (r.send number request).log.filter Signal.ofFlag = r.log.filter Signal.ofFlag := by
  rw [send, filter_ofFlag_withDesk (e := .arrive request.mode) (Desk.Step.of_step rfl),
    List.filter_append]
  exact List.append_nil _

variable [FlagGate γ] [RandomSource τ]

/-- A step leaves the gate that its question leaves, if it asks. -/
theorem Step.gate_eq (hs : Step r event r') : r'.cacheFlag = r.cacheFlag ∧
    r'.gate = if event.isAsk then (FlagGate.ask r.gate r.cacheFlag false).2.1 else r.gate := by
  cases hs with
  | ask asks gates =>
    rw [gates]
    exact ⟨rfl, rfl⟩
  | hold turn | fail turn | deliver turn =>
    rw [Event.isAsk_of_turn turn]
    exact ⟨rfl, rfl⟩
  | _ => exact ⟨rfl, rfl⟩

/-- A step tells of flags what its question tells, if it asks. -/
theorem Step.filter_ofFlag_log [FlagGate.TellsFlags γ] (hs : Step r event r') :
    r'.log.filter Signal.ofFlag = r.log.filter Signal.ofFlag ++
      if event.isAsk then (FlagGate.ask r.gate r.cacheFlag false).2.2 else [] := by
  cases hs with
  | refuse | enrol | leave => exact (List.append_nil _).symm
  | submit request => exact (filter_ofFlag_send r.came request).trans (List.append_nil _).symm
  | @ask number request enabled gate signals asks gates =>
    have htells := FlagGate.TellsFlags.ofFlag_of_mem r.gate r.cacheFlag false
    rw [gates] at htells ⊢
    refine (filter_ofFlag_send number _).trans ?_
    rw [List.filter_append, List.filter_eq_self.mpr htells]
    rfl
  | hold turn moves | fail turn moves =>
    rw [Event.isAsk_of_turn turn]
    exact (filter_ofFlag_withDesk moves).trans (List.append_nil _).symm
  | deliver turn moves =>
    rw [Event.isAsk_of_turn turn, List.filter_append, filter_ofFlag_withDesk moves]
    rfl
  | drop moves => exact (filter_ofFlag_withDesk moves).trans (List.append_nil _).symm

variable {gate : γ} {cacheFlag : String} {desk : Desk σ} {selector : Selector τ}
  {events : List Event}

/-- A run asks the gate for the flag of the cache, with the default `false`, once with each event
that asks. -/
theorem run_gate (h : (new gate cacheFlag desk selector).run events = some r) :
    r.cacheFlag = cacheFlag ∧ r.gate = (FlagGate.askAll gate
      (List.replicate (events.countP Event.isAsk) (cacheFlag, false))).1 := by
  refine run_induction (P := fun events r => r.cacheFlag = cacheFlag ∧ r.gate =
    (FlagGate.askAll gate (List.replicate (events.countP Event.isAsk) (cacheFlag, false))).1)
    ⟨rfl, rfl⟩ ?_ h
  rintro events r event r' - ⟨hflag, hgate⟩ hs
  obtain ⟨hflag', hgate'⟩ := hs.gate_eq
  refine ⟨hflag'.trans hflag, ?_⟩
  rw [hgate', replicate_isAsk_concat, hflag]
  cases event.isAsk with
  | true => rw [if_pos rfl, if_pos rfl, FlagGate.askAll_concat, hgate]
  | false => rw [if_neg Bool.false_ne_true, if_neg Bool.false_ne_true, List.append_nil, hgate]

/-- What the log of a run holds of flags is what these questions tell. -/
theorem run_log_ofFlag [FlagGate.TellsFlags γ]
    (h : (new gate cacheFlag desk selector).run events = some r) :
    r.log.filter Signal.ofFlag = (FlagGate.askAll gate
      (List.replicate (events.countP Event.isAsk) (cacheFlag, false))).2 := by
  refine run_induction (P := fun events r => r.log.filter Signal.ofFlag =
    (FlagGate.askAll gate (List.replicate (events.countP Event.isAsk) (cacheFlag, false))).2)
    rfl ?_ h
  intro events r event r' hrun hlog hs
  -- The question, if there is one more, is put to the gate that the run has left so far.
  obtain ⟨hflag, hgate⟩ := run_gate hrun
  rw [hs.filter_ofFlag_log, replicate_isAsk_concat, hlog, hflag]
  cases event.isAsk with
  | true => rw [if_pos rfl, if_pos rfl, FlagGate.askAll_concat, hgate]
  | false =>
    rw [if_neg Bool.false_ne_true, if_neg Bool.false_ne_true, List.append_nil, List.append_nil]

/-- So the defaults that a run counts are those that the questions count. -/
theorem run_flagFallbacks [FlagGate.TellsFlags γ]
    (h : (new gate cacheFlag desk selector).run events = some r) (flag : String) :
    (Metrics.ofSignals r.log).value (.flagFallbacks flag) =
      (Metrics.ofSignals (FlagGate.askAll gate
        (List.replicate (events.countP Event.isAsk) (cacheFlag, false))).2).value
          (.flagFallbacks flag) := by
  rw [← run_log_ofFlag h, Metrics.value, Metrics.value, Metrics.value?_ofSignals_filter
    fun signal hsignal => Signal.value?_record_of_not_ofFlag hsignal flag]

/-- The gate is asked once with each of these events, and never otherwise; and whenever it is asked,
it is for the flag of the cache with the default `false`. -/
theorem run_asked {gate : Flags.Noted γ} {config : CacheConfig} {source : σ} {catalog : String}
    {r : Reception (Flags.Noted γ) σ τ}
    (h : (new gate cacheFlag (Desk.new config source catalog) selector).run events = some r) :
    r.cacheFlag = cacheFlag ∧
      r.gate.asked = List.replicate (events.countP Event.isAsk) (cacheFlag, false) ++
        gate.asked := by
  obtain ⟨hflag, hgate⟩ := run_gate h
  refine ⟨hflag, ?_⟩
  rw [hgate, Flags.Noted.asked_askAll, List.reverse_replicate]

end Reception

end Shortlist
