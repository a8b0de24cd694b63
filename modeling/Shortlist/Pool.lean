import Shortlist.Product

/-!
# The pool of cached products

A pool holds distinct product ids in the order of their arrival, next to the set of its members.
Merging a listing appends the ids that are not members yet, each once, and only then drops the
oldest ids until the pool fits its bound; so a long listing can push out ids that it has just
brought, and an id that has fallen out can come back as the newest.

`ProductSet.arrivals` is the list of ids that a merge appends, and `Pool.merge` leaves the last ids
of the entries followed by these.
-/

namespace Shortlist

/-- Distinct product ids, oldest first, with the set of them. -/
structure Pool where
  entries : List ProductId
  members : ProductSet

/-- What a merge changed. -/
structure Merged where
  /-- How many ids were appended. -/
  added : Nat
  /-- How many ids were dropped in front. -/
  evicted : Nat
  deriving DecidableEq, Repr

/-- Whether the bound made the merge drop an id. -/
def Merged.truncated (m : Merged) : Bool := 0 < m.evicted

namespace Pool

/-- The pool without ids. -/
def empty : Pool := ⟨[], ∅⟩

instance : Inhabited Pool := ⟨empty⟩

/-- The number of ids. -/
def size (p : Pool) : Nat := p.entries.length

/-- Whether an id is in the pool. -/
def contains (p : Pool) (id : ProductId) : Bool := p.members.contains id

/-- Appends the new ids of a listing. -/
def append (p : Pool) (fresh : List ProductId) : Pool :=
  let new := ProductSet.arrivals p.members fresh
  ⟨p.entries ++ new.1, new.2⟩

/-- Drops the `n` oldest ids. -/
def dropOldest (p : Pool) (n : Nat) : Pool :=
  ⟨p.entries.drop n, (p.entries.take n).foldl (·.erase ·) p.members⟩

/-- Merges a listing under a bound: first all new ids are appended, then the oldest dropped. -/
def merge (p : Pool) (fresh : List ProductId) (bound : Nat) : Pool × Merged :=
  let grown := p.append fresh
  let excess := grown.size - bound
  (grown.dropOldest excess, { added := grown.size - p.size, evicted := excess })

end Pool

end Shortlist
