import Shortlist.Flags.Evaluation
import Shortlist.Flags.Gate
import Shortlist.Uri
import Shortlist.Url.Reader

/-!
# Flags of a remote service

A gate that evaluates each flag by a request to a flag service. `RemoteGate.evaluate` reports what
goes wrong; as a gate it answers the caller's default instead, and signals that it did.
-/

namespace Shortlist

/-- A flag service and the peer that requests to it go to. -/
structure RemoteGate (ν : Type) where
  /-- The URL that the paths of evaluations are put behind, without slashes at its end. -/
  base : String
  peer : ν

namespace RemoteGate

/-- A gate for the flag service at a URL; slashes at its end do not count. -/
def new (url : String) (peer : ν) : RemoteGate ν :=
  { base := String.ofList (url.toList.reverse.dropWhile (· == '/')).reverse, peer }

/-- The body of every evaluation: an empty context. -/
def emptyContext : String := (Json.object [("context", .object [])]).compact

/-- The URL at which a flag is evaluated. -/
def address (g : RemoteGate ν) (flag : String) : String :=
  g.base ++ "/ofrep/v1/evaluate/flags/" ++ flag

/-- Why an evaluation got no response. -/
inductive Obstacle where
  /-- The address is no URL. -/
  | noUrl
  /-- No request can be sent to the URL. -/
  | notSendable (url : Url)
  /-- The request was sent and not answered. -/
  | unanswered (url : Url)

/-- The text of an obstacle. -/
def Obstacle.message : Obstacle → String
  | noUrl => "builder error"
  | notSendable url => "builder error for url (" ++ url.text ++ ")"
  | unanswered url => "error sending request for url (" ++ url.text ++ ")"

/-- Sends the request of an evaluation: the status and the body of the response. -/
def exchange [Http.Peer ν] (g : RemoteGate ν) (flag : String) :
    Except Obstacle (Nat × Option ByteArray) × RemoteGate ν :=
  match Url.parse? (g.address flag) with
  | none => (.error .noUrl, g)
  | some url =>
    let url := url.withoutReadable
    if url.isWeb && Uri.isValid url.text then
      match Http.Peer.post g.peer url emptyContext with
      | (.noResponse, peer) => (.error (.unanswered url), { g with peer })
      | (.response status body?, peer) => (.ok (status, body?), { g with peer })
    else (.error (.notSendable url), g)

/-- Evaluates a flag. -/
def evaluate [Http.Peer ν] (g : RemoteGate ν) (flag : String) :
    Except Fault Bool × RemoteGate ν × List Signal :=
  match g.exchange flag with
  | (.error obstacle, after) =>
    (.error (.flagService
      ("request to " ++ g.address flag ++ " failed: " ++ obstacle.message)), after, [])
  | (.ok (status, body?), after) =>
    match Evaluation.verdict flag status body? with
    | .error problem => (.error (.flagService problem.message), after, [])
    | .ok (enabled, variant?) =>
      (.ok enabled, after, [.flagEvaluated flag enabled variant?])

/-- Evaluates a flag, with a default for every failure. -/
def ask [Http.Peer ν] (g : RemoteGate ν) (flag : String) (default : Bool) :
    Bool × RemoteGate ν × List Signal :=
  match g.evaluate flag with
  | (.ok enabled, after, signals) => (enabled, after, signals)
  | (.error fault, after, signals) =>
    (default, after, signals ++ [.flagDefaulted flag default fault])

instance [Http.Peer ν] : FlagGate (RemoteGate ν) where
  name _ := "flagd"
  ask := ask

end RemoteGate

end Shortlist
