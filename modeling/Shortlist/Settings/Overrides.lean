import Shortlist.Settings.Basic
import Shortlist.Text.Blank
import Shortlist.Text.Digits
import Shortlist.Text.Quoted

/-!
# Overrides from the environment

Some settings can be overridden by variables of the environment: the service's name, the port it
listens on, the catalog's address, and the host and the port of the flag service, of which a missing
one has its own default. They are applied in this order; a port that cannot be read ends the
overrides, and what was applied before it stays.

`Port.read` reads a port: an optional plus sign and digits, whatever their number, of a value below
65536.
-/

namespace Shortlist

open Shortlist.Text (isDigit trim quote)

/-- The variables of an environment, by name. -/
abbrev Environment := String → Option String

namespace Port

/-- Why a text is no port. -/
inductive Problem where
  | empty
  | notDigit
  | tooLarge
  deriving DecidableEq, Repr

/-- The text of a problem. -/
def Problem.message : Problem → String
  | empty => "cannot parse integer from empty string"
  | notDigit => "invalid digit found in string"
  | tooLarge => "number too large to fit in target type"

/-- The greatest port. -/
def greatest : Nat := 65535

/-- Adds a digit to the number read so far. -/
def addDigit (n : Nat) (c : Char) : Except Problem Nat :=
  if isDigit c then
    let m := 10 * n + (c.toNat - '0'.toNat)
    if greatest < m then .error .tooLarge else .ok m
  else .error .notDigit

/-- Reads a port without blanks. -/
def read : List Char → Except Problem Nat
  | [] => .error .empty
  | ['+'] => .error .notDigit
  | '+' :: ds | ds => ds.foldlM addDigit 0

end Port

namespace Settings

/-- The address that listens on a port of all interfaces. -/
def listenOn (port : Nat) : String := "0.0.0.0:" ++ toString port

/-- The URL of the flag service at a host and a port. -/
def flagServiceAt (host port : String) : String := "http://" ++ host ++ ":" ++ port

/-- Overrides the service's name. -/
def overrideName (env : Environment) (s : Settings) : Settings :=
  match env "OTEL_SERVICE_NAME" with
  | none => s
  | some name => { s with server.serviceName := name }

/-- Overrides the address by a port, which must be one. -/
def overridePort (env : Environment) (s : Settings) : Except Fault Settings :=
  match env "RECOMMENDATION_PORT" with
  | none => .ok s
  | some text =>
    match Port.read (trim text.toList) with
    | .ok port => .ok { s with server.address := listenOn port }
    | .error p =>
      .error (.configuration
        ("invalid RECOMMENDATION_PORT " ++ quote text ++ ": " ++ p.message))

/-- Overrides the catalog's address. -/
def overrideCatalog (env : Environment) (s : Settings) : Settings :=
  match env "PRODUCT_CATALOG_ADDR" with
  | none => s
  | some address => { s with catalog.address := address }

/-- Overrides the URL of the flag service. -/
def overrideFlagService (env : Environment) (s : Settings) : Settings :=
  match env "FLAGD_HOST", env "FLAGD_OFREP_PORT" with
  | none, none => s
  | host?, port? =>
    { s with flags.serviceUrl := flagServiceAt (host?.getD "flagd") (port?.getD "8016") }

/-- Applies the overrides of an environment: the settings after them, and what went wrong. -/
def override (s : Settings) (env : Environment) : Settings × Except Fault Unit :=
  let s := s.overrideName env
  match s.overridePort env with
  | .error fault => (s, .error fault)
  | .ok s => ((s.overrideCatalog env).overrideFlagService env, .ok ())

end Settings

end Shortlist
