import Shortlist.Cache.Desk

/-!
# Requests in rounds

One way of letting several requests go on together: they take turns, in the order of their arrival.
A request in turn goes as far as it can. A waiting request goes on when the cache is free and no
earlier one waits; a call that a request makes is put to the catalog at once and comes back on the
request's next turn, so that the others have theirs in between. All that happens is a list of events
of the desk.
-/

namespace Shortlist

/-- A desk over a catalog, with the answers that its calls in flight will bring. -/
structure Rounds (σ κ : Type) where
  desk : Desk σ
  catalog : κ
  coming : List (Ticket × Option Listing) := []

namespace Rounds

variable [RandomSource σ] [Catalog κ]

/-- An empty desk over a catalog. -/
def new (config : CacheConfig) (source : σ) (catalog : κ) : Rounds σ κ :=
  { desk := .new config source (Catalog.name catalog), catalog }

omit [RandomSource σ] in
/-- Puts the call of a request to the catalog. -/
def callFor (r : Rounds σ κ) (ticket : Ticket) : Rounds σ κ :=
  let (answer, catalog) := Catalog.call r.catalog
  { r with catalog, coming := (ticket, answer) :: r.coming }

/-- Lets an event happen; one that is impossible changes nothing. -/
def happen (r : Rounds σ κ) (e : Desk.Event) : Rounds σ κ :=
  { r with desk := (r.desk.step e).getD r.desk }

/-- Grants the cache to a request if it is free and no earlier request waits for it. -/
def tryGrant (r : Rounds σ κ) (ticket : Ticket) : Rounds σ κ :=
  if r.desk.lock = none ∧ r.desk.waiting.head? = some ticket then
    let r := r.happen (.grant ticket)
    if r.desk.lock = some ticket then r.callFor ticket else r
  else r

/-- The first turn of a request. -/
def begin (r : Rounds σ κ) (mode : CacheMode) : Rounds σ κ :=
  let ticket := r.desk.arrived
  let r := r.happen (.arrive mode)
  match mode with
  | .enabled => r.tryGrant ticket
  | .disabled => r.callFor ticket

/-- A later turn of a request. -/
def turn (r : Rounds σ κ) (ticket : Ticket) : Rounds σ κ :=
  match r.coming.lookup ticket with
  | some (some listing) =>
    { r.happen (.answer ticket listing) with coming := r.coming.filter (·.1 != ticket) }
  | some none => r
  | none => r.tryGrant ticket

/-- Turns for all of the requests, round after round. -/
def goOn : (rounds : Nat) → List Ticket → Rounds σ κ → Rounds σ κ
  | 0, _, r => r
  | n + 1, tickets, r => goOn n tickets (tickets.foldl turn r)

/-- Starts requests in the given order and lets them take turns until they are answered. Each round
answers at least one request unless a call never comes back, so twice as many rounds as requests
are enough. The answers come in the order of the requests. -/
def together (r : Rounds σ κ) (modes : List CacheMode) :
    List (Option Listing) × Rounds σ κ :=
  let tickets := List.range' r.desk.arrived modes.length
  let r := modes.foldl begin r
  let r := goOn (2 * modes.length) tickets r
  (tickets.map r.desk.result?, r)

/-- Starts a request and drops it while its catalog call is in flight; its answer, if it needed no
call. -/
def abandon (r : Rounds σ κ) (mode : CacheMode) : Option Listing × Rounds σ κ :=
  let ticket := r.desk.arrived
  let r := r.begin mode
  match r.desk.result? ticket with
  | some answer => (some answer, r)
  | none =>
    (none, { r.happen (.drop ticket) with coming := r.coming.filter (·.1 != ticket) })

end Rounds

end Shortlist
