import Shortlist.Cache.Basic

/-!
# Requests in flight together

Any number of requests can be in flight on one cache. An enabled request waits until it is granted
the cache, which one request holds at a time; it is then answered at once on a hit, and keeps the
cache while its catalog call is in flight on a miss. A disabled request only has a catalog call of
its own. Every request can be dropped while it waits or while its call is in flight.

A `Desk` is the cache with the requests in flight on it, a `Desk.Event` is one thing that happens,
and `Desk.step` says which events are possible and what they do. Every interleaving of requests is
a list of events, and `Desk.run` follows it.
-/

namespace Shortlist

/-- A request in flight, by the order of arrival. -/
abbrev Ticket := Nat

/-- The cache with the requests in flight on it. -/
structure Desk (σ : Type) where
  cache : ProductCache σ
  /-- The name of the catalog. -/
  catalog : String
  /-- How many requests have arrived. -/
  arrived : Nat := 0
  /-- The request that holds the cache. -/
  lock : Option Ticket := none
  /-- The enabled requests that wait for the cache, in order of arrival. -/
  waiting : List Ticket := []
  /-- The requests whose catalog call is in flight. -/
  calling : List (Ticket × CacheMode) := []
  /-- The requests that have been answered, the latest first. -/
  answered : List (Ticket × Listing) := []
  /-- What happened, and to which request. -/
  log : List (Ticket × Signal) := []

/-- Something that happens to a request. -/
inductive Desk.Event where
  /-- A request arrives; an enabled one waits, a disabled one starts its catalog call. -/
  | arrive (mode : CacheMode)
  /-- A waiting request is granted the cache. -/
  | grant (ticket : Ticket)
  /-- A request's catalog call comes back. -/
  | answer (ticket : Ticket) (listing : Listing)
  /-- A request is dropped. -/
  | drop (ticket : Ticket)

namespace Desk

/-- A new cache with no requests on it. -/
def new (config : CacheConfig) (source : σ) (catalog : String) : Desk σ :=
  { cache := .new config source, catalog }

/-- The signals logged so far, in order. -/
def signals (d : Desk σ) : List Signal := d.log.map (·.2)

/-- The answer of a request, if it has one. -/
def result? (d : Desk σ) (ticket : Ticket) : Option Listing := d.answered.lookup ticket

/-- Adds signals of a request to the log. -/
def note (d : Desk σ) (ticket : Ticket) (signals : List Signal) : Desk σ :=
  { d with log := d.log ++ signals.map (ticket, ·) }

/-- A request arrives. -/
def arrive (d : Desk σ) (mode : CacheMode) : Desk σ :=
  let ticket := d.arrived
  let d := { d with arrived := ticket + 1 }.note ticket [.poolAsked mode]
  match mode with
  | .enabled => { d with waiting := d.waiting ++ [ticket] }
  | .disabled => { d with calling := d.calling ++ [(ticket, CacheMode.disabled)] }

/-- A waiting request is granted the cache, which must be free. -/
def grant [RandomSource σ] (d : Desk σ) (ticket : Ticket) : Option (Desk σ) :=
  if ticket ∈ d.waiting ∧ d.lock = none then
    let d := { d with waiting := d.waiting.erase ticket }
    match d.cache.enter with
    | (some pool, cache, signals) =>
      some <| { d with cache, answered := (ticket, .ok pool) :: d.answered }.note ticket signals
    | (none, cache, signals) =>
      some <| { d with
        cache
        lock := some ticket
        calling := d.calling ++ [(ticket, CacheMode.enabled)] }.note ticket signals
  else none

/-- The catalog call of a request comes back; an enabled request gives the cache free. -/
def answer (d : Desk σ) (ticket : Ticket) (listing : Listing) : Option (Desk σ) :=
  if (ticket, CacheMode.enabled) ∈ d.calling then
    let (result, cache, signals) := d.cache.settle d.catalog listing
    some <| { d with
      cache
      lock := none
      calling := d.calling.erase (ticket, CacheMode.enabled)
      answered := (ticket, result) :: d.answered }.note ticket signals
  else if (ticket, CacheMode.disabled) ∈ d.calling then
    some <| { d with
      calling := d.calling.erase (ticket, CacheMode.disabled)
      answered := (ticket, listing) :: d.answered }.note ticket
        [ProductCache.listingSignal d.catalog listing]
  else none

/-- A request is dropped; one that holds the cache gives it free. -/
def drop (d : Desk σ) (ticket : Ticket) : Option (Desk σ) :=
  if ticket ∈ d.waiting then some { d with waiting := d.waiting.erase ticket }
  else if (ticket, CacheMode.enabled) ∈ d.calling then
    some { d with lock := none, calling := d.calling.erase (ticket, CacheMode.enabled) }
  else if (ticket, CacheMode.disabled) ∈ d.calling then
    some { d with calling := d.calling.erase (ticket, CacheMode.disabled) }
  else none

/-- What an event does, if it is possible. -/
def step [RandomSource σ] (d : Desk σ) : Event → Option (Desk σ)
  | .arrive mode => some (d.arrive mode)
  | .grant ticket => d.grant ticket
  | .answer ticket listing => d.answer ticket listing
  | .drop ticket => d.drop ticket

/-- Follows a list of events, all of which must be possible. -/
def run [RandomSource σ] (d : Desk σ) (events : List Event) : Option (Desk σ) :=
  events.foldlM step d

end Desk

end Shortlist
