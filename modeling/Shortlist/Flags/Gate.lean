import Shortlist.Telemetry.Signal
import Std.Data.ExtTreeMap

/-!
# Flag gates

A gate answers whether a flag is on. It never fails: where it does not know, it answers the default
that the caller gives. `FlagTable` is a gate with fixed values; `Noted` passes every question on to
another gate and keeps it. The gate that asks a remote service is in `Flags/Remote.lean`.
-/

namespace Shortlist

/-- A flag gate, as a state that each question advances. -/
class FlagGate (γ : Type) where
  /-- The name that logs use. -/
  name : γ → String
  /-- Asks for a flag; the answer is `default` where the gate does not know. -/
  ask : γ → (flag : String) → (default : Bool) → Bool × γ × List Signal

/-- Fixed values of flags. -/
structure FlagTable where
  values : Std.ExtTreeMap String Bool := ∅

namespace FlagTable

/-- The table without flags. -/
def empty : FlagTable := {}

/-- The table of a list of values; of equal flags the last counts. -/
def ofList (values : List (String × Bool)) : FlagTable :=
  ⟨values.foldl (fun m v => m.insert v.1 v.2) ∅⟩

/-- Sets a flag. -/
def set (t : FlagTable) (flag : String) (enabled : Bool) : FlagTable :=
  ⟨t.values.insert flag enabled⟩

/-- Forgets a flag. -/
def clear (t : FlagTable) (flag : String) : FlagTable := ⟨t.values.erase flag⟩

/-- The value of a flag. -/
def get (t : FlagTable) (flag : String) (default : Bool) : Bool := t.values.getD flag default

instance : FlagGate FlagTable where
  name _ := "static"
  ask t flag default := (t.get flag default, t, [])

end FlagTable

namespace Flags

/-- A gate with the questions that it was asked, the latest first. -/
structure Noted (γ : Type) where
  gate : γ
  asked : List (String × Bool) := []

instance [FlagGate γ] : FlagGate (Noted γ) where
  name n := FlagGate.name n.gate
  ask n flag default :=
    let (enabled, gate, signals) := FlagGate.ask n.gate flag default
    (enabled, { gate, asked := (flag, default) :: n.asked }, signals)

end Flags

end Shortlist
