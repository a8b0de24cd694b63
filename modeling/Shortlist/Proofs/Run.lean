import Mathlib.Data.List.Induction

/-!
# Runs

A run follows a list of events with a step that may be impossible. A property of all states that
runs lead to, possibly one that mentions the events so far, is proved by `foldlM_induction`: it
holds of the state that the run starts from, and each step preserves it.

`yielded` lists what the steps of a run yield, where that is read off a step's states and its event.
-/

namespace Shortlist

variable {S E : Type} {step : S → E → Option S} {start s : S}

/-- A run of two parts goes on from where the first part ends. -/
theorem foldlM_append_eq_bind (start : S) (earlier later : List E) :
    (earlier ++ later).foldlM step start =
      (earlier.foldlM step start).bind fun s => later.foldlM step s := by
  rw [List.foldlM_append]
  rfl

/-- A run of events and one more ends with a step. -/
theorem foldlM_concat_eq_some {events : List E} {e : E} :
    (events ++ [e]).foldlM step start = some s ↔
      ∃ before, events.foldlM step start = some before ∧ step before e = some s := by
  rw [foldlM_append_eq_bind, Option.bind_eq_some_iff]
  refine exists_congr fun before => and_congr_right fun _ => ?_
  simp

/-- What holds at the start of a run and is preserved by each of its steps holds at its end. -/
theorem foldlM_induction {P : List E → S → Prop} (init : P [] start)
    (next : ∀ {events s e s'}, events.foldlM step start = some s → P events s →
      step s e = some s' → P (events ++ [e]) s')
    {events : List E} (h : events.foldlM step start = some s) : P events s := by
  induction events using List.reverseRecOn generalizing s with
  | nil =>
    obtain rfl := Option.some.inj h
    exact init
  | append_singleton events e ih =>
    obtain ⟨before, hbefore, hstep⟩ := foldlM_concat_eq_some.mp h
    exact next hbefore (ih hbefore) hstep

/-- What the steps of a run yield, as far as they are possible. -/
def yielded {A : Type} (step : S → E → Option S) (yields : S → E → S → List A) (s : S) :
    List E → List A
  | [] => []
  | e :: later =>
    match step s e with
    | none => []
    | some s' => yields s e s' ++ yielded step yields s' later

/-- One more step adds what it yields. -/
theorem yielded_concat {A : Type} {yields : S → E → S → List A} {events : List E} {e : E}
    {s' : S} (h : events.foldlM step start = some s) (hstep : step s e = some s') :
    yielded step yields start (events ++ [e]) =
      yielded step yields start events ++ yields s e s' := by
  induction events generalizing start with
  | nil =>
    obtain rfl := Option.some.inj h
    simp [yielded, hstep]
  | cons first later ih =>
    rw [List.foldlM_cons, Option.bind_eq_bind, Option.bind_eq_some_iff] at h
    obtain ⟨s₁, hfirst, hlater⟩ := h
    simp only [List.cons_append, yielded, hfirst, ih hlater, List.append_assoc]

end Shortlist
