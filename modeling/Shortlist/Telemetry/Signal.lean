import Shortlist.Fault
import Shortlist.Request

/-!
# Signals

A signal is something that happened and that an operator may want to see. Each part of the service
returns the signals of what it did, in order, beside its result. What is counted and what is traced
are two readings of the same signals: `Telemetry/Metrics.lean` and `Telemetry/Trace.lean`.
-/

namespace Shortlist

/-- What happened. -/
inductive Signal where
  /-- The settings chose a flag gate, and the flag that it is asked for. -/
  | gateChosen (gate flag : String)
  /-- A flag was evaluated remotely. -/
  | flagEvaluated (flag : String) (enabled : Bool) (variant : Option String)
  /-- A flag could not be evaluated, and the caller's default stood in for it. -/
  | flagDefaulted (flag : String) (default : Bool) (fault : Fault)
  /-- A request for recommendations was taken up. -/
  | recommendAsked (user : String) (mode : CacheMode)
  /-- A request asked for its pool. -/
  | poolAsked (mode : CacheMode)
  /-- The cache served a request from what it holds. -/
  | hit (size : Nat)
  /-- The cache has to be refreshed. -/
  | miss
  /-- The catalog answered with a listing. -/
  | listed (catalog : String) (count : Nat)
  /-- The catalog's call failed. -/
  | listingFailed (catalog : String) (fault : Fault)
  /-- A refresh dropped ids: the size before, the bound, and how many were dropped. -/
  | evicted (size limit count : Nat)
  /-- A refresh left the cache with so many ids. -/
  | sized (size : Nat)
  /-- A request was answered: the size of its pool, its candidates, and the products drawn. -/
  | recommended (user : String) (pool available : Nat) (products : List ProductId)
  /-- The health of a service was asked for. -/
  | healthChecked (service : String)
  deriving DecidableEq

end Shortlist
