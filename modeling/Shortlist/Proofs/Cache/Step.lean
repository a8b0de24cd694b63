import Shortlist.Cache.Desk
import Shortlist.Proofs.Run

/-!
# The desk as a step relation

`Desk.Step` has one constructor for each thing that a possible event can do to a desk, and
`step_eq_some_iff` says that these are exactly the steps of `Desk.step`. A property of every
reachable desk, possibly one that mentions the events so far, is then proved by `run_induction`: it
holds of the desk that the run starts from, and each kind of step preserves it.
-/

namespace Shortlist.Desk

variable {σ : Type} [RandomSource σ]

/-- What one event does to a desk on which it is possible. -/
inductive Step (d : Desk σ) : Event → Desk σ → Prop
  /-- An enabled request arrives and waits. -/
  | queue :
    Step d (.arrive .enabled) { d with
      arrived := d.arrived + 1
      waiting := d.waiting ++ [d.arrived]
      log := d.log ++ [(d.arrived, .poolAsked .enabled)] }
  /-- A disabled request arrives and starts its catalog call. -/
  | call :
    Step d (.arrive .disabled) { d with
      arrived := d.arrived + 1
      calling := d.calling ++ [(d.arrived, CacheMode.disabled)]
      log := d.log ++ [(d.arrived, .poolAsked .disabled)] }
  /-- A waiting request is granted the free cache and answered from it. -/
  | hit {ticket pool cache signals} (waits : ticket ∈ d.waiting) (free : d.lock = none)
      (enters : d.cache.enter = (some pool, cache, signals)) :
    Step d (.grant ticket) { d with
      cache
      waiting := d.waiting.erase ticket
      answered := (ticket, .ok pool) :: d.answered
      log := d.log ++ signals.map (ticket, ·) }
  /-- A waiting request is granted the free cache and keeps it for its catalog call. -/
  | miss {ticket cache signals} (waits : ticket ∈ d.waiting) (free : d.lock = none)
      (enters : d.cache.enter = (none, cache, signals)) :
    Step d (.grant ticket) { d with
      cache
      lock := some ticket
      waiting := d.waiting.erase ticket
      calling := d.calling ++ [(ticket, CacheMode.enabled)]
      log := d.log ++ signals.map (ticket, ·) }
  /-- The catalog call of a refresh comes back, and the cache is free again. -/
  | settle {ticket} (listing) (calls : (ticket, CacheMode.enabled) ∈ d.calling) :
    Step d (.answer ticket listing) { d with
      cache := (d.cache.settle d.catalog listing).2.1
      lock := none
      calling := d.calling.erase (ticket, CacheMode.enabled)
      answered := (ticket, (d.cache.settle d.catalog listing).1) :: d.answered
      log := d.log ++ (d.cache.settle d.catalog listing).2.2.map (ticket, ·) }
  /-- The catalog call of a disabled request comes back and is passed on. -/
  | pass {ticket} (listing) (other : (ticket, CacheMode.enabled) ∉ d.calling)
      (calls : (ticket, CacheMode.disabled) ∈ d.calling) :
    Step d (.answer ticket listing) { d with
      calling := d.calling.erase (ticket, CacheMode.disabled)
      answered := (ticket, listing) :: d.answered
      log := d.log ++ [(ticket, ProductCache.listingSignal d.catalog listing)] }
  /-- A waiting request is dropped. -/
  | leave {ticket} (waits : ticket ∈ d.waiting) :
    Step d (.drop ticket) { d with waiting := d.waiting.erase ticket }
  /-- A request is dropped while it refreshes the cache, which is free again. -/
  | abandon {ticket} (other : ticket ∉ d.waiting)
      (calls : (ticket, CacheMode.enabled) ∈ d.calling) :
    Step d (.drop ticket) { d with
      lock := none
      calling := d.calling.erase (ticket, CacheMode.enabled) }
  /-- A disabled request is dropped while its catalog call is in flight. -/
  | hangUp {ticket} (other : ticket ∉ d.waiting)
      (another : (ticket, CacheMode.enabled) ∉ d.calling)
      (calls : (ticket, CacheMode.disabled) ∈ d.calling) :
    Step d (.drop ticket) { d with calling := d.calling.erase (ticket, CacheMode.disabled) }

/-- What `Desk.step` does is a step. -/
theorem Step.of_step {d d' : Desk σ} {e : Event} (h : d.step e = some d') : Step d e d' := by
  cases e with
  | arrive mode =>
    obtain rfl : d.arrive mode = d' := by simpa [step] using h
    cases mode with
    | enabled => exact .queue
    | disabled => exact .call
  | grant ticket =>
    simp only [step, grant] at h
    split at h
    · rename_i hcan
      split at h
      · rename_i pool cache signals henter
        obtain rfl := Option.some.inj h
        exact .hit hcan.1 hcan.2 henter
      · rename_i cache signals henter
        obtain rfl := Option.some.inj h
        exact .miss hcan.1 hcan.2 henter
    · cases h
  | answer ticket listing =>
    simp only [step, answer] at h
    split at h
    · rename_i hcalls
      obtain rfl := Option.some.inj h
      exact .settle listing hcalls
    · rename_i hother
      split at h
      · rename_i hcalls
        obtain rfl := Option.some.inj h
        exact .pass listing hother hcalls
      · cases h
  | drop ticket =>
    simp only [step, drop] at h
    split at h
    · rename_i hwaits
      obtain rfl := Option.some.inj h
      exact .leave hwaits
    · rename_i hother
      split at h
      · rename_i hcalls
        obtain rfl := Option.some.inj h
        exact .abandon hother hcalls
      · rename_i hanother
        split at h
        · rename_i hcalls
          obtain rfl := Option.some.inj h
          exact .hangUp hother hanother hcalls
        · cases h

/-- The steps of the relation are exactly those that `Desk.step` takes. -/
theorem step_eq_some_iff {d d' : Desk σ} {e : Event} : d.step e = some d' ↔ Step d e d' := by
  refine ⟨Step.of_step, ?_⟩
  intro h
  cases h with
  | queue => rfl
  | call => rfl
  | hit waits free enters => simp [step, grant, waits, free, enters, note]
  | miss waits free enters => simp [step, grant, waits, free, enters, note]
  | settle listing calls => simp [step, answer, calls, note]
  | pass listing other calls => simp [step, answer, other, calls, note]
  | leave waits => simp [step, drop, waits]
  | abandon other calls => simp [step, drop, other, calls]
  | hangUp other another calls => simp [step, drop, other, another, calls]

/-- A run of two parts goes on from where the first part ends. -/
theorem run_append (d : Desk σ) (earlier later : List Event) :
    d.run (earlier ++ later) = (d.run earlier).bind fun d => d.run later :=
  foldlM_append_eq_bind d earlier later

/-- What holds at the start of a run and is preserved by each of its steps holds at its end. -/
theorem run_induction {start : Desk σ} {P : List Event → Desk σ → Prop} (init : P [] start)
    (next : ∀ {events d e d'}, start.run events = some d → P events d → Step d e d' →
      P (events ++ [e]) d')
    {events : List Event} {d : Desk σ} (h : start.run events = some d) : P events d :=
  foldlM_induction init (fun hrun ih hstep => next hrun ih (Step.of_step hstep)) h

omit [RandomSource σ] in
/-- What is logged of a request goes to the end of the signals. -/
theorem signals_of_log {d d' : Desk σ} {ticket : Ticket} {more : List Signal}
    (h : d'.log = d.log ++ more.map (ticket, ·)) : d'.signals = d.signals ++ more := by
  rw [signals, h, List.map_append, List.map_map]
  congr 1
  exact List.map_id more

end Shortlist.Desk
