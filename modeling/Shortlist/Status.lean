import Shortlist.Fault

/-!
# Call statuses

The outcome codes of a remote procedure call, and the status that a fault is reported as. The code
depends on the kind of the fault alone.
-/

namespace Shortlist

/-- The outcome codes of a remote procedure call. -/
inductive Code where
  | ok | cancelled | unknown | invalidArgument | deadlineExceeded | notFound | alreadyExists
  | permissionDenied | resourceExhausted | failedPrecondition | aborted | outOfRange
  | unimplemented | internal | unavailable | dataLoss | unauthenticated
  deriving DecidableEq, Repr

namespace Code

/-- All codes, each at the place of its number. -/
def all : List Code :=
  [ok, cancelled, unknown, invalidArgument, deadlineExceeded, notFound, alreadyExists,
    permissionDenied, resourceExhausted, failedPrecondition, aborted, outOfRange, unimplemented,
    internal, unavailable, dataLoss, unauthenticated]

/-- The code with a number; any other number is `unknown`. -/
def ofNumber : Int → Code
  | .ofNat n => all[n]?.getD unknown
  | .negSucc _ => unknown

/-- The name of a code, as messages show it. -/
def name : Code → String
  | ok => "Ok"
  | cancelled => "Cancelled"
  | unknown => "Unknown"
  | invalidArgument => "InvalidArgument"
  | deadlineExceeded => "DeadlineExceeded"
  | notFound => "NotFound"
  | alreadyExists => "AlreadyExists"
  | permissionDenied => "PermissionDenied"
  | resourceExhausted => "ResourceExhausted"
  | failedPrecondition => "FailedPrecondition"
  | aborted => "Aborted"
  | outOfRange => "OutOfRange"
  | unimplemented => "Unimplemented"
  | internal => "Internal"
  | unavailable => "Unavailable"
  | dataLoss => "DataLoss"
  | unauthenticated => "Unauthenticated"

end Code

/-- The outcome of a call that failed. -/
structure Status where
  code : Code
  message : String
  deriving DecidableEq, Repr

namespace Status

/-- The code that a kind of fault is reported with. -/
def codeOf : Fault → Code
  | .malformedInput _ => .invalidArgument
  | .catalogUnavailable _ => .unavailable
  | .catalogTimeout _ => .deadlineExceeded
  | .flagService _ | .configuration _ => .internal

/-- The status that a fault is reported as: the code of its kind with its message. -/
def ofFault (f : Fault) : Status := ⟨codeOf f, f.message⟩

/-- How a status is told in one line. -/
def summary (s : Status) : String := s.code.name ++ ": " ++ s.message

end Status

end Shortlist
