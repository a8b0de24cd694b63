import Shortlist.Url.Basic

/-!
# HTTP exchanges

What a request over HTTP can end in, seen from the side that sends it, and the peers that requests
are sent to. `Scripted` is a peer with answers laid down beforehand; `Unreachable` one that no
connection reaches.
-/

namespace Shortlist.Http

/-- The end of an exchange. -/
inductive Outcome where
  /-- No response came: no connection, a closed one, or none in time. -/
  | noResponse
  /-- A response with its bytes, or with no body if the connection ended before all of it had
  come. -/
  | response (status : Nat) (body? : Option ByteArray)

/-- A peer, as a state that each request advances. -/
class Peer (ν : Type) where
  /-- Posts a body to a URL. -/
  post : ν → (url : Url) → (body : String) → Outcome × ν

/-- A peer that no connection reaches. -/
structure Unreachable where

instance : Peer Unreachable where
  post p _ _ := (.noResponse, p)

/-- A peer with answers laid down beforehand; without any it does not respond. -/
structure Scripted where
  answers : List Outcome := []
  /-- The targets and bodies of the requests that came, the latest first. -/
  requests : List (String × String) := []

instance : Peer Scripted where
  post p url body :=
    let p := { p with requests := ("POST " ++ url.target, body) :: p.requests }
    match p.answers with
    | [] => (.noResponse, p)
    | a :: later => (a, { p with answers := later })

end Shortlist.Http
