import Shortlist.Address.V6
import Shortlist.Catalog.Address
import Shortlist.Catalog.Basic
import Shortlist.Status
import Shortlist.Url.Host

/-!
# The catalog as a remote service

Each call to the catalog's service ends with its products, with a status, or not within the time
that it may take. Any status is a fault of the catalog, whatever its code, and so is a call that is
not answered in time. `Scripted` is a service with ends laid down beforehand, `Refusing` one that
refuses connections, and `Absent` one on a system without a network.
-/

namespace Shortlist

/-- A product of the catalog's listing; nothing but its id matters here. -/
structure CatalogItem where
  id : String
  name : String := ""
  deriving DecidableEq, Repr

/-- The ids of a listing, in its order. -/
def CatalogItem.ids (items : List CatalogItem) : List ProductId := items.map fun p => ⟨p.id⟩

/-- The end of a call. -/
inductive CallEnd where
  | products (items : List CatalogItem)
  | status (s : Status)
  /-- The call was not answered in time. -/
  | outlived

namespace CallEnd

/-- The status of a call that ended without products: a good one cannot be true. -/
def ofStatus (s : Status) : CallEnd :=
  if s.code = .ok then .status ⟨.internal, "Missing response message."⟩ else .status s

/-- The fault that a status is. -/
def faultOf (s : Status) : Fault := .catalogUnavailable s.summary

/-- What a call brings, where it may take a given time. -/
def listing (timeout : Duration) : CallEnd → Listing
  | products items => .ok (CatalogItem.ids items)
  | status s => .error (faultOf s)
  | outlived => .error (.catalogTimeout timeout)

end CallEnd

/-- The service of a catalog, as a state that each call advances. -/
class CatalogPeer (ν : Type) where
  /-- Whether a connection can be made. -/
  reachable : ν → Bool
  /-- The next call to a place. -/
  call : ν → CatalogPlace → CallEnd × ν

namespace CatalogPeer

/-- A service that refuses every connection. -/
structure Refusing where

/-- What is told of a connection that no one accepts. -/
def refusal : String := "tcp connect error"

instance : CatalogPeer Refusing where
  reachable _ := false
  call p _ := (.status ⟨.unavailable, refusal⟩, p)

/-- A service on a system without a network: an address is not reached, a name is not known, and no
socket stands in the file system. -/
structure Absent where

namespace Absent

/-- Whether a host is known without asking for it: an address, or the system itself. -/
def isKnown (host : List Char) : Bool :=
  let inner := host.filter fun c => c != '[' && c != ']'
  (Address.V6.read inner).any (·.2.isEmpty) || (Url.Host.readV4 host).isSome ||
    host.map Text.lowerChar = "localhost".toList

/-- The length that the path of a socket stays below, in bytes. -/
def maxSocketPath : Nat := 108

/-- Whether a path names a directory that every system has: its root, or one that is relative to
the current one by points alone. -/
def isStanding (path : List Char) : Bool :=
  (path.splitOn '/').all fun part => part ∈ ["", ".", ".."].map String.toList

/-- What is told of a socket that cannot be connected to. -/
def socketProblem (path : String) : String :=
  let cs := path.toList
  if cs.any (·.toNat = 0) then "paths must not contain interior null bytes"
  else if maxSocketPath ≤ Text.byteLength cs then "path must be shorter than SUN_LEN"
  else if cs.isEmpty then "Invalid argument (os error 22)"
  else if isStanding cs then "Connection refused (os error 111)"
  else "No such file or directory (os error 2)"

/-- The status of a call to a place. -/
def status : CatalogPlace → Status
  | .web .origin => ⟨.unknown, "transport error"⟩
  | .web (.absolute authority) =>
    ⟨.unavailable, if isKnown (Uri.hostOf authority) then refusal else "dns error"⟩
  | .socket path => ⟨.unavailable, socketProblem path⟩

end Absent

instance : CatalogPeer Absent where
  reachable _ := false
  call p place := (.status (Absent.status place), p)

/-- A service with ends of calls laid down beforehand. The last one comes again for ever, and
without any the listing is empty. -/
structure Scripted where
  ends : List CallEnd
  /-- How many calls came. -/
  calls : Nat := 0

instance : CatalogPeer Scripted where
  reachable _ := true
  call p _ :=
    let p' := { p with calls := p.calls + 1 }
    match p.ends with
    | [] => (.products [], p')
    | [e] => (e, p')
    | e :: later => (e, { p' with ends := later })

end CatalogPeer

/-- A catalog that is called over a connection. -/
structure RemoteCatalog (ν : Type) where
  address : CatalogAddress
  /-- The time that a call may take. -/
  timeout : Duration
  peer : ν

namespace RemoteCatalog

/-- A catalog that is connected to on the first call. -/
def lazily (address : String) (timeout : Duration) (peer : ν) :
    Except Fault (RemoteCatalog ν) := do
  return { address := ← CatalogAddress.parse address, timeout, peer }

/-- A catalog that is connected to at once. -/
def eagerly [CatalogPeer ν] (address : String) (timeout : Duration) (peer : ν) :
    Except Fault (RemoteCatalog ν) := do
  let c ← lazily address timeout peer
  if CatalogPeer.reachable peer then return c
  throw (.catalogUnavailable ("failed to connect to " ++ c.address.text ++ ": transport error"))

/-- The next call; one that may take no time is not answered in it. -/
def call [CatalogPeer ν] (c : RemoteCatalog ν) : Listing × RemoteCatalog ν :=
  if c.timeout.toNanos = 0 then (CallEnd.outlived.listing c.timeout, c)
  else
    let (e, peer) := CatalogPeer.call c.peer c.address.place
    (e.listing c.timeout, { c with peer })

instance [CatalogPeer ν] : Catalog (RemoteCatalog ν) where
  name _ := "grpc"
  call c :=
    let (listing, c) := c.call
    (some listing, c)

end RemoteCatalog

end Shortlist
