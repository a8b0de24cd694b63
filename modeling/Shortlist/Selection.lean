import Shortlist.Product
import Shortlist.Random.Source

/-!
# Selection

The candidates of a request are the ids of the pool that the caller has not excluded, each once, in
the order of the pool. Up to a given number of them is drawn without replacement. The source is
asked only when there is something to draw, and then for no more positions than there are
candidates.
-/

namespace Shortlist

/-- The ids of a pool that are not excluded, each at its first occurrence. -/
def candidates (pool : List ProductId) (exclude : ProductSet) : List ProductId :=
  (exclude.arrivals pool).1

/-- Draws up to `count` of the candidates. -/
def draw [RandomSource σ] (candidates : List ProductId) (count : Nat) (source : σ) :
    List ProductId × σ :=
  let amount := min count candidates.length
  if amount = 0 then ([], source)
  else
    let (positions, source) := RandomSource.sample source candidates.length amount
    let table := candidates.toArray
    (positions.filterMap (table[·]?), source)

/-- Draws up to `count` products of a pool, the excluded ones left out. -/
def select [RandomSource σ] (pool : List ProductId) (exclude : ProductSet) (count : Nat)
    (source : σ) : List ProductId × σ :=
  draw (candidates pool exclude) count source

/-- A selection, with the number of candidates that it was drawn from. -/
structure Selection where
  available : Nat
  products : List ProductId
  deriving DecidableEq, Repr

/-- How many products a selector draws, and the source it draws from. -/
structure Selector (σ : Type) where
  /-- The greatest number of products; five unless the settings say otherwise. -/
  count : Nat := 5
  source : σ

/-- Draws a selection and tells how many candidates there were. -/
def Selector.select [RandomSource σ] (s : Selector σ) (pool : List ProductId)
    (exclude : ProductSet) : Selection × Selector σ :=
  let found := candidates pool exclude
  let (products, source) := draw found s.count s.source
  ({ available := found.length, products }, { s with source })

end Shortlist
