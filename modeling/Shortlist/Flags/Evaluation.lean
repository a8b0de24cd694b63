import Shortlist.Fault
import Shortlist.Http.Exchange
import Shortlist.Http.Status
import Shortlist.Json.Outline

/-!
# Flag evaluations

A flag service answers an evaluation with a JSON payload: a value, the name of the variant, and,
where it could not evaluate, an error code with details. Each part may be missing or null. The
payload is an object, in which known members must not be repeated and unknown ones are passed over
by their syntax, or an array of up to four parts in a fixed order.

`Evaluation.decode` reads a payload and `Evaluation.verdict` tells what the whole response comes to;
`verdict` looks at the parts in the order in which their failures win.
-/

namespace Shortlist

/-- The payload of an evaluation. -/
structure Evaluation where
  value? : Option Json := none
  variant? : Option String := none
  errorCode? : Option String := none
  errorDetails? : Option String := none

namespace Evaluation

/-- An optional text. -/
def textOf : Json → Option (Option String)
  | .null => some none
  | .text s => some (some s)
  | _ => none

/-- An optional value. -/
def valueOf : Json → Option Json
  | .null => none
  | v => some v

/-- The names of the members, in the order of their places in an array. -/
def memberNames : List String := ["value", "variant", "errorCode", "errorDetails"]

/-- The payload of four parts. -/
def ofParts (value variant errorCode errorDetails : Json) : Option Evaluation := do
  let variant? ← textOf variant
  let errorCode? ← textOf errorCode
  let errorDetails? ← textOf errorDetails
  return { value? := valueOf value, variant?, errorCode?, errorDetails? }

/-- The value of a part as it is written, which is inside the payload. -/
def part? (written : List Char) : Option Json := do
  Json.readInside 1 (← Json.text? written).toList

/-- The member with a name, which must not be there twice; null if it is not there at all. -/
def memberOnce (ms : List (String × List Char)) (name : String) : Option Json :=
  match ms.filter (·.1 = name) with
  | [] => some .null
  | [m] => part? m.2
  | _ => none

/-- The payload of an outline. -/
def ofOutline : Json.Outline → Option Evaluation
  | .object ms => do
    match ← memberNames.mapM (memberOnce ms) with
    | [value, variant, code, details] => ofParts value variant code details
    | _ => none
  | .array items => do
    let vs ← items.mapM part?
    match vs ++ List.replicate (4 - vs.length) Json.null with
    | [value, variant, code, details] => ofParts value variant code details
    | _ => none

/-- Reads the body of a response, if all of it has come. -/
def decode (body? : Option ByteArray) : Option Evaluation := do
  ofOutline (← Json.Outline.read (Json.ofBytes (← body?)))

/-- What is wrong with a response. -/
inductive Problem where
  /-- The body is no payload. -/
  | payload (status : Nat)
  /-- The service reports an error of its own. -/
  | reported (code details : String)
  /-- The status is no success. -/
  | unsuccessful (status : Nat)
  /-- The value is no Boolean. -/
  | notBoolean (flag : String) (value? : Option Json)

/-- The text of a problem. -/
def Problem.message : Problem → String
  | payload status =>
    "invalid evaluation payload (HTTP " ++ Http.statusText status ++
      "): error decoding response body"
  | reported code details => code ++ ": " ++ details
  | unsuccessful status => "evaluation returned HTTP " ++ Http.statusText status
  | notBoolean flag value? =>
    let shown := match value? with
      | none => "None"
      | some v => "Some(" ++ v.shape ++ ")"
    "flag " ++ flag ++ " is not boolean: " ++ shown

/-- The value of a flag by the response to its evaluation, with the variant, or what is wrong: a
body that cannot be read goes before a reported error, that before the status, and that before
the value. -/
def verdict (flag : String) (status : Nat) (body? : Option ByteArray) :
    Except Problem (Bool × Option String) :=
  match decode body? with
  | none => .error (.payload status)
  | some e =>
    match e.errorCode? with
    | some code => .error (.reported code (e.errorDetails?.getD ""))
    | none =>
      if Http.isSuccess status then
        match e.value? with
        | some (.bool enabled) => .ok (enabled, e.variant?)
        | other => .error (.notBoolean flag other)
      else .error (.unsuccessful status)

end Evaluation

end Shortlist
