import Shortlist.Cache.Desk
import Shortlist.Recommender

/-!
# Recommendations in flight together

Any number of requests for recommendations can be under way on one recommender. A request that
comes is read; one that cannot be read is answered at once. For any other the gate is asked, after
which it goes to the desk of the cache with the mode that the flag decides. A request can also be
submitted already read, with a mode of its own, and then goes to the desk at once. As soon as the
desk has its pool, products are drawn and it is answered. A request can be dropped at each of these
stages.

`Reception.step` says which events are possible and what they do. Every interleaving of requests is
a list of events, and `Reception.run` follows it.
-/

namespace Shortlist

/-- A recommender with the requests that are under way on it. -/
structure Reception (γ σ τ : Type) where
  gate : γ
  /-- The flag that enables the cache. -/
  cacheFlag : String
  desk : Desk σ
  selector : Selector τ
  /-- How many requests have come; each is known by its number. -/
  came : Nat := 0
  /-- The requests that have been read and whose flag is still to be asked. -/
  asking : List (Nat × Request) := []
  /-- The requests at the desk, by their tickets. -/
  atDesk : List (Ticket × Nat × Request) := []
  /-- The answers, the latest first. -/
  answered : List (Nat × Answer) := []
  /-- What happened. -/
  log : List Signal := []

namespace Reception

/-- Something that happens to a request for recommendations. -/
inductive Event where
  /-- A request comes. -/
  | come (user : String) (raws : List String)
  /-- A request is submitted that has been read, and goes to the desk with the mode it has. -/
  | submit (request : Request)
  /-- The gate is asked for a request, which then goes to the desk. -/
  | ask (number : Nat)
  /-- A request is dropped before the gate has been asked. -/
  | leave (number : Nat)
  /-- The desk grants the cache to a request. -/
  | grant (ticket : Ticket)
  /-- A request's catalog call comes back. -/
  | answer (ticket : Ticket) (listing : Listing)
  /-- A request at the desk is dropped. -/
  | drop (ticket : Ticket)

/-- A recommender without requests. -/
def new (gate : γ) (cacheFlag : String) (desk : Desk σ) (selector : Selector τ) :
    Reception γ σ τ :=
  { gate, cacheFlag, desk, selector }

/-- The answer to a request, if it has one. -/
def result? (r : Reception γ σ τ) (number : Nat) : Option Answer := r.answered.lookup number

/-- A request comes and is read. -/
def come (r : Reception γ σ τ) (user : String) (raws : List String) : Reception γ σ τ :=
  match Request.parse user raws with
  | .error fault =>
    { r with came := r.came + 1, answered := (r.came, .error fault) :: r.answered }
  | .ok request => { r with came := r.came + 1, asking := r.asking ++ [(r.came, request)] }

/-- The desk moves on, and what it logs is logged here too. -/
def withDesk (r : Reception γ σ τ) (desk : Desk σ) : Reception γ σ τ :=
  { r with desk, log := r.log ++ desk.signals.drop r.desk.signals.length }

/-- A request that has its mode goes to the desk. -/
def send (r : Reception γ σ τ) (number : Nat) (request : Request) : Reception γ σ τ :=
  { r with
    atDesk := (r.desk.arrived, number, request) :: r.atDesk
    log := r.log ++ [Signal.recommendAsked request.user request.mode] }.withDesk
      (r.desk.arrive request.mode)

/-- A request that has been read comes and goes to the desk. -/
def submit (r : Reception γ σ τ) (request : Request) : Reception γ σ τ :=
  { r with came := r.came + 1 }.send r.came request

/-- The gate is asked for a request, which goes to the desk. -/
def ask [FlagGate γ] (r : Reception γ σ τ) (number : Nat) : Option (Reception γ σ τ) :=
  match r.asking.lookup number with
  | none => none
  | some request =>
    let (enabled, gate, signals) := FlagGate.ask r.gate r.cacheFlag false
    some <| { r with
      gate
      asking := r.asking.filter (·.1 != number)
      log := r.log ++ signals }.send number (request.withMode (.ofBool enabled))

/-- A request is dropped before the gate has been asked. -/
def leave (r : Reception γ σ τ) (number : Nat) : Option (Reception γ σ τ) :=
  if (r.asking.lookup number).isSome then
    some { r with asking := r.asking.filter (·.1 != number) }
  else none

/-- Answers a request at the desk as soon as it has its pool. -/
def serve [RandomSource τ] (r : Reception γ σ τ) (ticket : Ticket) : Reception γ σ τ :=
  match r.atDesk.lookup ticket, r.desk.result? ticket with
  | some (number, _), some (.error fault) =>
    { r with
      atDesk := r.atDesk.filter (·.1 != ticket)
      answered := (number, .error fault) :: r.answered }
  | some (number, request), some (.ok pool) =>
    let (selection, selector) := r.selector.select pool request.exclude
    { r with
      selector
      atDesk := r.atDesk.filter (·.1 != ticket)
      answered := (number, .ok selection.products) :: r.answered
      log := r.log ++
        [.recommended request.user pool.length selection.available selection.products] }
  | _, _ => r

/-- Something happens to a request at the desk, if it is possible. -/
def stepDesk [RandomSource σ] [RandomSource τ] (r : Reception γ σ τ) (ticket : Ticket)
    (e : Desk.Event) : Option (Reception γ σ τ) :=
  (r.desk.step e).map fun desk => (r.withDesk desk).serve ticket

/-- What an event does, if it is possible. -/
def step [FlagGate γ] [RandomSource σ] [RandomSource τ] (r : Reception γ σ τ) :
    Event → Option (Reception γ σ τ)
  | .come user raws => some (r.come user raws)
  | .submit request => some (r.submit request)
  | .ask number => r.ask number
  | .leave number => r.leave number
  | .grant ticket => r.stepDesk ticket (.grant ticket)
  | .answer ticket listing => r.stepDesk ticket (.answer ticket listing)
  | .drop ticket =>
    (r.desk.step (.drop ticket)).map fun desk =>
      { r.withDesk desk with atDesk := r.atDesk.filter (·.1 != ticket) }

/-- Follows a list of events, all of which must be possible. -/
def run [FlagGate γ] [RandomSource σ] [RandomSource τ] (r : Reception γ σ τ)
    (events : List Event) : Option (Reception γ σ τ) :=
  events.foldlM step r

end Reception

end Shortlist
