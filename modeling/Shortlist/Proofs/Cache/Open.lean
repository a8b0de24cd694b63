import Shortlist.Proofs.Cache.Ledger

/-!
# Open requests

A request at the desk is open while it waits or has its catalog call in flight. A step opens the
request that arrives with it and touches no other than its own (`Step.open_iff`,
`Step.result?_eq`), so a request that is no longer open is never opened again and keeps its result.
An open request has no result yet (`Ledger.result?_of_open`); a step about it leaves it open, brings
its result or drops it. Its result is a fault exactly if its catalog call brought that fault
(`run_result?_eq_error_iff`).
-/

namespace Shortlist.Desk

variable {σ : Type}

/-- Whether a request still waits for something. -/
def Open (d : Desk σ) (ticket : Ticket) : Prop :=
  ticket ∈ d.waiting ∨ ∃ mode, (ticket, mode) ∈ d.calling

variable {events : List Event} {d d' : Desk σ} {e : Event} {ticket t : Ticket}

/-- An open request has arrived. -/
theorem Ledger.lt_arrived_of_open (h : Ledger events d) (ht : d.Open t) : t < d.arrived := by
  rcases ht with ht | ⟨mode, ht⟩
  · exact h.lt_arrived (h.waiting t ht).1
  · exact h.lt_arrived (h.calling t mode ht).1

/-- An open request has no result yet. -/
theorem Ledger.result?_of_open (h : Ledger events d) (ht : d.Open t) : d.result? t = none := by
  rcases ht with ht | ⟨_ | _, ht⟩
  · exact h.unanswered t (Or.inl (h.waiting t ht).2)
  · exact h.unanswered t (Or.inr ht)
  · exact h.unanswered t (Or.inl (h.calling t _ ht).2)

section

variable [RandomSource σ]

/-- A step is about an open request, unless a request arrives. -/
theorem Step.open_self (hs : Step d e d') (h : e.ticket? = some ticket) : d.Open ticket := by
  cases hs with
  | queue => cases h
  | call => cases h
  | hit waits => exact Or.inl (Option.some.inj h ▸ waits)
  | miss waits => exact Or.inl (Option.some.inj h ▸ waits)
  | settle listing calls => exact Or.inr ⟨_, Option.some.inj h ▸ calls⟩
  | pass listing other calls => exact Or.inr ⟨_, Option.some.inj h ▸ calls⟩
  | leave waits => exact Or.inl (Option.some.inj h ▸ waits)
  | abandon other calls => exact Or.inr ⟨_, Option.some.inj h ▸ calls⟩
  | hangUp other another calls => exact Or.inr ⟨_, Option.some.inj h ▸ calls⟩

/-- An arrival opens its request. -/
theorem Step.open_arrived {mode : CacheMode} (hs : Step d (.arrive mode) d') :
    d'.Open d.arrived ∧ d'.arrived = d.arrived + 1 := by
  cases hs with
  | queue => exact ⟨Or.inl (by simp), rfl⟩
  | call => exact ⟨Or.inr ⟨.disabled, by simp⟩, rfl⟩

/-- No request goes back to before its arrival. -/
theorem Step.arrived_le (hs : Step d e d') : d.arrived ≤ d'.arrived := by
  cases hs with
  | queue => exact Nat.le_succ _
  | call => exact Nat.le_succ _
  | _ => exact Nat.le_refl _

/-- A step opens and closes no other request than its own and the one that arrives. -/
theorem Step.open_iff (hs : Step d e d') (h : e.ticket? ≠ some t) (ht : t ≠ d.arrived) :
    d'.Open t ↔ d.Open t := by
  unfold Open
  cases hs with
  | queue => simp [ht]
  | call => simp [ht]
  | hit | leave | miss | settle | pass | abandon | hangUp =>
    -- What is taken from a list or put into one is the step's own ticket.
    have hne : ∀ {ticket}, some ticket ≠ some t → t ≠ ticket := by
      rintro ticket hne rfl
      exact hne rfl
    simp [List.mem_erase_of_ne, hne h]

/-- A step gives no other request than its own a result. -/
theorem Step.result?_eq (hs : Step d e d') (h : e.ticket? ≠ some t) :
    d'.result? t = d.result? t := by
  cases hs with
  | hit => exact result?_of_answered_of_ne rfl (fun heq => h (congrArg some heq.symm))
  | settle => exact result?_of_answered_of_ne rfl (fun heq => h (congrArg some heq.symm))
  | pass => exact result?_of_answered_of_ne rfl (fun heq => h (congrArg some heq.symm))
  | _ => rfl

/-- After a step about a request, other than a drop, it is open or has its result. -/
theorem Step.open_or_result (hs : Step d e d') (h : e.ticket? = some ticket)
    (hdrop : e ≠ .drop ticket) : d'.Open ticket ∨ (d'.result? ticket).isSome := by
  cases hs with
  | queue => cases h
  | call => cases h
  | hit =>
    obtain rfl := Option.some.inj h
    exact Or.inr (by rw [result?_of_answered (d := d) rfl]; rfl)
  | miss =>
    obtain rfl := Option.some.inj h
    exact Or.inl (Or.inr ⟨.enabled, by simp⟩)
  | settle =>
    obtain rfl := Option.some.inj h
    exact Or.inr (by rw [result?_of_answered (d := d) rfl]; rfl)
  | pass =>
    obtain rfl := Option.some.inj h
    exact Or.inr (by rw [result?_of_answered (d := d) rfl]; rfl)
  | leave | abandon | hangUp => exact absurd (congrArg Event.drop (Option.some.inj h)) hdrop

/-- A request that is dropped is no longer open and gets no result. -/
theorem Ledger.closed_of_drop (h : Ledger events d) (hs : Step d (.drop ticket) d') :
    ¬ d'.Open ticket ∧ d'.result? ticket = none := by
  have hnone := h.result?_of_open (hs.open_self rfl)
  cases hs with
  | leave waits =>
    refine ⟨?_, hnone⟩
    rintro (hw | ⟨mode, hc⟩)
    · exact h.waiting_nodup.not_mem_erase hw
    · exact h.not_calling_of_waiting waits mode hc
  | abandon other calls =>
    refine ⟨?_, hnone⟩
    rintro (hw | ⟨mode, hc⟩)
    · exact other hw
    · exact h.not_mem_erase calls mode hc
  | hangUp other another calls =>
    refine ⟨?_, hnone⟩
    rintro (hw | ⟨mode, hc⟩)
    · exact other hw
    · exact h.not_mem_erase calls mode hc

/-- A request that is no longer open stays so and keeps its result. -/
theorem Step.closed_stable (hs : Step d e d') (hclosed : ¬ d.Open t) (ht : t < d.arrived) :
    ¬ d'.Open t ∧ d'.result? t = d.result? t := by
  have hother : e.ticket? ≠ some t := fun h => hclosed (hs.open_self h)
  refine ⟨?_, hs.result?_eq hother⟩
  rw [hs.open_iff hother (Nat.ne_of_lt ht)]
  exact hclosed

/-- A step about a request gives it a fault for its result exactly if it brings that fault. -/
theorem Step.result?_eq_error_iff (hs : Step d e d') (h : e.ticket? = some t)
    (hnone : d.result? t = none) (fault : Fault) :
    d'.result? t = some (.error fault) ↔ e = .answer t (.error fault) := by
  cases hs with
  | queue | call => cases h
  | hit =>
    obtain rfl := Option.some.inj h
    rw [result?_of_answered (d := d) rfl]
    simp
  | @settle t' listing =>
    obtain rfl : t' = t := Option.some.inj h
    rw [result?_of_answered (d := d) rfl]
    cases listing <;> simp [ProductCache.settle]
  | @pass t' listing =>
    obtain rfl : t' = t := Option.some.inj h
    rw [result?_of_answered (d := d) rfl]
    simp
  | _ =>
    have hsame : d.result? t ≠ some (.error fault) := by simp [hnone]
    exact iff_of_false hsame (by simp)

/-- A request has a fault for its result exactly if its catalog call has brought that fault. -/
theorem run_result?_eq_error_iff {config : CacheConfig} {source : σ} {catalog : String}
    (h : (new config source catalog).run events = some d) (t : Ticket) (fault : Fault) :
    d.result? t = some (.error fault) ↔ .answer t (.error fault) ∈ events := by
  refine run_induction (P := fun events d =>
    d.result? t = some (.error fault) ↔ .answer t (.error fault) ∈ events) ?_ ?_ h
  · simp [result?, new]
  · intro events d e d' hrun ih hs
    rw [List.mem_append, List.mem_singleton, ← ih]
    by_cases habout : e.ticket? = some t
    · -- Before a step about it the request is open, and so without a result.
      have hnone := (run_ledger hrun).result?_of_open (hs.open_self habout)
      rw [hs.result?_eq_error_iff habout hnone, hnone, eq_comm]
      simp
    · rw [hs.result?_eq habout]
      refine (or_iff_left ?_).symm
      rintro rfl
      exact habout rfl

end

end Shortlist.Desk
