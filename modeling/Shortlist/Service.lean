import Shortlist.Catalog.Remote
import Shortlist.Flags.Remote
import Shortlist.Recommender
import Shortlist.Settings.Basic
import Shortlist.Status

/-!
# The service

The service is put together from settings: a catalog, a cache, a flag gate and a selector. It
answers requests for recommendations with product ids or a status, and tells that it is serving.
`Service.build` says which settings it can be put together from.
-/

namespace Shortlist

/-- The gate that the settings choose. -/
inductive ServiceGate (ν : Type) where
  | table (t : FlagTable)
  | remote (g : RemoteGate ν)

namespace ServiceGate

/-- The gate of the settings, where `peer` is what requests to a flag service reach. -/
def ofSettings (f : FlagSettings) (peer : ν) : ServiceGate ν :=
  match f.provider with
  | .remote => remote (.new f.serviceUrl peer)
  | .fixed => table f.values

instance [Http.Peer ν] : FlagGate (ServiceGate ν) where
  name
    | table t => FlagGate.name t
    | remote g => FlagGate.name g
  ask g flag default :=
    match g with
    | table t =>
      let (enabled, t, signals) := FlagGate.ask t flag default
      (enabled, table t, signals)
    | remote g =>
      let (enabled, g, signals) := FlagGate.ask g flag default
      (enabled, remote g, signals)

end ServiceGate

/-- A service whose flag service and catalog are reached through peers. -/
abbrev Service (ν κ σ τ : Type) := Recommender (ServiceGate ν) σ (RemoteCatalog κ) τ

namespace Service

variable [Http.Peer ν] [CatalogPeer κ] [RandomSource σ] [RandomSource τ]

omit [CatalogPeer κ] [RandomSource τ] in
/-- Puts a service together. The catalog's address and the cache's bounds must be usable. -/
def build (s : Settings) (flagPeer : ν) (catalogPeer : κ) (cacheSource : σ) (selectSource : τ) :
    Except Fault (Service ν κ σ τ × List Signal) := do
  let catalog ← RemoteCatalog.lazily s.catalog.address s.catalog.timeout catalogPeer
  s.cache.validate
  let gate := ServiceGate.ofSettings s.flags flagPeer
  let service : Service ν κ σ τ :=
    { gate
      cacheFlag := s.flags.cacheFlag
      cache := .new s.cache cacheSource
      catalog
      selector := { count := s.recommendations.maxResponses, source := selectSource } }
  return (service, [.gateChosen (FlagGate.name gate) s.flags.cacheFlag])

/-- The ids of an answer, as they are sent. -/
def response (products : List ProductId) : List String := products.map (·.text)

/-- Answers a request for recommendations. -/
def list (s : Service ν κ σ τ) (user : String) (raws : List String) :
    Option (Except Status (List String)) × Service ν κ σ τ × List Signal :=
  let (answer, s, signals) := Recommender.list s user raws
  (answer.map fun a => (a.mapError Status.ofFault).map response, s, signals)

/-- What a check of the service's health answers: it is up, whatever the service asked for. -/
def health (service : String) : String × List Signal := ("SERVING", [.healthChecked service])

/-- What watching the service's health answers. -/
def watch (_ : String) : Status := ⟨.unimplemented, "health watch is not supported"⟩

end Service

end Shortlist
