import Shortlist.Duration

/-!
# Faults

What can go wrong in the service, by kind. The catalog's faults are never recovered, since serving
an old or empty pool would hide an outage from callers; a fault of the flag service is recovered by
the gate, which answers the caller's default.
-/

namespace Shortlist

/-- A fault, with what is known of it. -/
inductive Fault where
  /-- The product catalog could not be reached or answered with an error. -/
  | catalogUnavailable (text : String)
  /-- The product catalog did not answer in time. -/
  | catalogTimeout (after : Duration)
  /-- The flag service failed to evaluate a flag. -/
  | flagService (text : String)
  /-- A request that cannot be read. -/
  | malformedInput (text : String)
  /-- Settings that the service cannot run with. -/
  | configuration (text : String)
  deriving DecidableEq

namespace Fault

/-- The text shown to callers and in logs. -/
def message : Fault → String
  | catalogUnavailable text => "product catalog unavailable: " ++ text
  | catalogTimeout after => "product catalog timed out after " ++ after.text
  | flagService text => "flag service error: " ++ text
  | malformedInput text => "malformed input: " ++ text
  | configuration text => "configuration error: " ++ text

/-- Whether the fault comes from the catalog. -/
def isFromCatalog : Fault → Bool
  | catalogUnavailable _ | catalogTimeout _ => true
  | _ => false

end Fault

end Shortlist
