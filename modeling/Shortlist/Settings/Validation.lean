import Shortlist.Address.Socket
import Shortlist.Settings.Basic
import Shortlist.Text.Blank
import Shortlist.Text.Quoted

/-!
# Validation of settings

The settings that the service cannot run with, and the socket address that it listens on.
-/

namespace Shortlist

open Shortlist.Text (trim quote)

/-- The socket address that the settings name. -/
def ServerSettings.socketAddress (s : ServerSettings) : Except Fault Address.Socket :=
  match Address.Socket.parse? s.address with
  | some address => .ok address
  | none =>
    .error (.configuration
      ("invalid address " ++ quote s.address ++ ": invalid socket address syntax"))

/-- Refuses settings that the service cannot run with; the first of several faults is reported. -/
def Settings.validate (s : Settings) : Except Fault Unit := do
  let _ ← s.server.socketAddress
  if (trim s.catalog.address.toList).isEmpty then
    throw (.configuration "catalog address must not be empty")
  if s.recommendations.maxResponses = 0 then
    throw (.configuration "recommendations.max_responses must be greater than 0")
  s.cache.validate

end Shortlist
