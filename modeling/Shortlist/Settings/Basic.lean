import Shortlist.Cache.Basic
import Shortlist.Flags.Gate

/-!
# Settings

Everything that can be set, section by section, each setting with its default. The defaults have
names of their own, since a document may leave out a whole section or one of its settings.
-/

namespace Shortlist

/-- The socket address to listen on unless the settings name another. -/
def defaultAddress : String := "0.0.0.0:9001"

/-- The name that logs use unless the settings name another. -/
def defaultServiceName : String := "recommendation"

/-- Where the service listens, and what it is called. -/
structure ServerSettings where
  /-- The socket address to listen on. -/
  address : String := defaultAddress
  /-- The name that logs use. -/
  serviceName : String := defaultServiceName

/-- The catalog that is called unless the settings name another. -/
def defaultCatalogAddress : String := "product-catalog:3550"

/-- The time that a call of the catalog may take unless the settings name another. -/
def defaultCatalogTimeoutMs : Nat := 2000

/-- The catalog that product ids come from. -/
structure CatalogSettings where
  /-- Its URI, or a host and a port. -/
  address : String := defaultCatalogAddress
  /-- The time that a call may take, in milliseconds. -/
  timeoutMs : Nat := defaultCatalogTimeoutMs

namespace CatalogSettings

/-- The time that a call may take. -/
def timeout (c : CatalogSettings) : Duration := .ofMillis c.timeoutMs

end CatalogSettings

/-- Who answers flags. -/
inductive FlagProvider where
  /-- A flag service, asked over HTTP. -/
  | remote
  /-- The values of the settings. -/
  | fixed
  deriving DecidableEq, Repr

namespace FlagProvider

instance : Inhabited FlagProvider := ⟨remote⟩

/-- The name of a provider in the settings. -/
def name : FlagProvider → String
  | remote => "flagd"
  | fixed => "static"

/-- The provider with a name. -/
def ofName? (s : String) : Option FlagProvider := [remote, fixed].find? (·.name = s)

end FlagProvider

/-- The flag that turns the cache on unless the settings name another. -/
def defaultCacheFlag : String := "recommendationCacheFailure"

/-- The flag service that is asked unless the settings name another. -/
def defaultFlagService : String := "http://flagd:8016"

/-- The time that an evaluation may take unless the settings name another. -/
def defaultFlagTimeoutMs : Nat := 500

/-- How flags are answered, and which of them is asked for. -/
structure FlagSettings where
  provider : FlagProvider := default
  /-- The URL of the flag service. -/
  serviceUrl : String := defaultFlagService
  /-- The time that an evaluation may take, in milliseconds. -/
  timeoutMs : Nat := defaultFlagTimeoutMs
  /-- The flag that turns the cache on. -/
  cacheFlag : String := defaultCacheFlag
  /-- The fixed values. -/
  values : FlagTable := .empty

namespace FlagSettings

/-- The time that an evaluation may take. -/
def timeout (f : FlagSettings) : Duration := .ofMillis f.timeoutMs

end FlagSettings

/-- The greatest number of products of an answer unless the settings name another. -/
def defaultMaxResponses : Nat := 5

/-- How many products an answer holds. -/
structure AnswerSettings where
  /-- The greatest number of products. -/
  maxResponses : Nat := defaultMaxResponses

/-- All settings. -/
structure Settings where
  server : ServerSettings := {}
  catalog : CatalogSettings := {}
  flags : FlagSettings := {}
  cache : CacheConfig := {}
  recommendations : AnswerSettings := {}

end Shortlist
