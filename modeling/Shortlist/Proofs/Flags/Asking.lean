import Shortlist.Flags.Gate

/-!
# Asking a gate many times

`FlagGate.askAll` asks a gate any number of questions, one after the other, and collects what it
tells. A gate that keeps its questions has kept all of them (`Noted.asked_askAll`).
-/

namespace Shortlist

variable {γ : Type} [FlagGate γ]

namespace FlagGate

/-- Asks a gate for flags one after the other, each with its default: the gate afterwards, and what
it tells. -/
def askAll (gate : γ) : List (String × Bool) → γ × List Signal
  | [] => (gate, [])
  | (flag, default) :: later =>
    let (_, after, signals) := ask gate flag default
    let (last, more) := askAll after later
    (last, signals ++ more)

theorem askAll_cons (gate : γ) (flag : String) (default : Bool) (later : List (String × Bool)) :
    askAll gate ((flag, default) :: later) =
      ((askAll (ask gate flag default).2.1 later).1,
        (ask gate flag default).2.2 ++ (askAll (ask gate flag default).2.1 later).2) := rfl

/-- One more question is asked of the gate that those before it leave. -/
theorem askAll_concat (gate : γ) (questions : List (String × Bool)) (flag : String)
    (default : Bool) :
    askAll gate (questions ++ [(flag, default)]) =
      ((ask (askAll gate questions).1 flag default).2.1,
        (askAll gate questions).2 ++ (ask (askAll gate questions).1 flag default).2.2) := by
  induction questions generalizing gate with
  | nil => simp only [List.nil_append, askAll, List.append_nil]
  | cons question later ih => simp only [List.cons_append, askAll, ih, List.append_assoc]

end FlagGate

/-- A gate that keeps its questions has kept them all, the latest first. -/
theorem Flags.Noted.asked_askAll (noted : Flags.Noted γ) (questions : List (String × Bool)) :
    (FlagGate.askAll noted questions).1.asked = questions.reverse ++ noted.asked := by
  induction questions generalizing noted with
  | nil => rfl
  | cons question later ih =>
    obtain ⟨flag, default⟩ := question
    have hfirst : (FlagGate.ask noted flag default).2.1.asked = (flag, default) :: noted.asked :=
      rfl
    rw [FlagGate.askAll_cons, ih, hfirst, List.reverse_cons, List.append_assoc,
      List.singleton_append]

end Shortlist
