import Shortlist.Catalog.Basic
import Shortlist.Decimal.Text
import Shortlist.Pool
import Shortlist.Random.Source
import Shortlist.Telemetry.Signal

/-!
# The product cache

The cache holds one pool, shared by all requests for which caching is enabled. Such a request gets
the pool as it is, a *hit*, or refreshes it from the catalog first, a *miss*. The very first one
always refreshes; each later one draws a number and refreshes when it lies below the refresh
probability. Whether to refresh is decided when the request is granted the cache (`enter`), and the
catalog's answer is taken in when it arrives (`settle`); between the two the cache stays with that
request. A failed or abandoned call leaves the pool as it was, but the first turn is spent.

`serve` is one enabled request from grant to answer, with nothing in between.
-/

namespace Shortlist

/-- The bound and the refresh probability of a cache. -/
structure CacheConfig where
  /-- The greatest number of ids held between requests. -/
  maxEntries : Nat := 10000
  /-- How likely a request is to refresh. -/
  refreshProbability : Float := 0.5

namespace CacheConfig

/-- What makes a cache configuration unusable. -/
inductive Problem where
  | noEntries
  | probability (p : Float)

/-- The text of a problem. -/
def Problem.message : Problem → String
  | noEntries => "cache max_entries must be greater than 0"
  | probability p =>
    "cache refresh_probability must be within [0, 1], got " ++ Decimal.plain p

/-- The first problem of a configuration; a number that is no number lies outside. -/
def problem? (c : CacheConfig) : Option Problem :=
  if c.maxEntries = 0 then some .noEntries
  else if 0 ≤ c.refreshProbability ∧ c.refreshProbability ≤ 1 then none
  else some (.probability c.refreshProbability)

/-- Refuses a configuration that the cache cannot honour. -/
def validate (c : CacheConfig) : Except Fault Unit :=
  match c.problem? with
  | some p => .error (.configuration p.message)
  | none => .ok ()

end CacheConfig

/-- The cache with its source of draws. -/
structure ProductCache (σ : Type) where
  config : CacheConfig
  source : σ
  pool : Pool
  /-- Whether no request has been granted the cache yet. -/
  firstRun : Bool
  /-- The size of the pool as readers without the cache see it. -/
  size : Nat

namespace ProductCache

variable [RandomSource σ]

omit [RandomSource σ] in
/-- A cache that holds nothing. -/
def new (config : CacheConfig) (source : σ) : ProductCache σ :=
  { config, source, pool := .empty, firstRun := true, size := 0 }

/-- Decides whether to refresh. The first turn is not left to a draw. -/
def refreshes (c : ProductCache σ) : Bool × ProductCache σ :=
  if c.firstRun then (true, c)
  else
    let (u, source) := RandomSource.unit c.source
    (u < c.config.refreshProbability, { c with source })

/-- Grants the cache to a request: on a hit its pool, on a miss nothing yet. -/
def enter (c : ProductCache σ) : Option (List ProductId) × ProductCache σ × List Signal :=
  let (refresh, c) := c.refreshes
  if refresh then (none, { c with firstRun := false }, [.miss])
  else (some c.pool.entries, c, [.hit c.pool.size])

/-- The signal of a catalog call that came back. -/
def listingSignal (catalog : String) : Listing → Signal
  | .error fault => .listingFailed catalog fault
  | .ok ids => .listed catalog ids.length

omit [RandomSource σ] in
/-- Takes in the answer that a refresh was waiting for. -/
def settle (c : ProductCache σ) (catalog : String) (listing : Listing) :
    Listing × ProductCache σ × List Signal :=
  match listing with
  | .error fault => (.error fault, c, [listingSignal catalog listing])
  | .ok ids =>
    let (pool, merged) := c.pool.merge ids c.config.maxEntries
    let dropped :=
      if merged.truncated then
        [.evicted (pool.size + merged.evicted) c.config.maxEntries merged.evicted]
      else []
    (.ok pool.entries, { c with pool, size := pool.size },
      listingSignal catalog listing :: dropped ++ [.sized pool.size])

/-- One enabled request from grant to answer, where `answer` is what its catalog call brings if it
makes one, and nothing if that call never comes back. -/
def serve (c : ProductCache σ) (catalog : String) (answer : Option Listing) :
    Option Listing × ProductCache σ × List Signal :=
  match c.enter with
  | (some pool, c, signals) => (some (.ok pool), c, signals)
  | (none, c, signals) =>
    match answer with
    | none => (none, c, signals)
    | some listing =>
      let (result, c, more) := c.settle catalog listing
      (some result, c, signals ++ more)

/-- The pool of a request, one at a time: from the cache if that is enabled, live otherwise. The
catalog moves on only when its answer was needed. -/
def poolFor [Catalog κ] (c : ProductCache σ) (catalog : κ) (mode : CacheMode) :
    Option Listing × ProductCache σ × κ × List Signal :=
  let name := Catalog.name catalog
  let (answer, called) := Catalog.call catalog
  match mode with
  | .disabled => (answer, c, called, .poolAsked mode :: (answer.map (listingSignal name)).toList)
  | .enabled =>
    let (result, after, signals) := c.serve name answer
    (result, after, if c.refreshes.1 then called else catalog, .poolAsked mode :: signals)

end ProductCache

end Shortlist
