import Shortlist.Cache.Basic
import Shortlist.Flags.Gate
import Shortlist.Request
import Shortlist.Selection

/-!
# Recommendations

A request for recommendations is read, the gate is asked whether the cache is enabled for it, and
products are drawn from its pool. A request that cannot be read goes no further, and neither does
one whose pool cannot be had. `recommend` serves a request that has been read, `list` also reads it
and asks the gate; both serve one request at a time, and neither has an answer if the catalog never
gives one.
-/

namespace Shortlist

/-- What serves requests for recommendations. -/
structure Recommender (γ σ κ τ : Type) where
  gate : γ
  /-- The flag that enables the cache. -/
  cacheFlag : String
  cache : ProductCache σ
  catalog : κ
  selector : Selector τ

/-- The answer to a request for recommendations. -/
abbrev Answer := Except Fault (List ProductId)

namespace Recommender

variable [FlagGate γ] [RandomSource σ] [Catalog κ] [RandomSource τ]

omit [FlagGate γ] in
/-- Serves a request that has been read. -/
def recommend (r : Recommender γ σ κ τ) (request : Request) :
    Option Answer × Recommender γ σ κ τ × List Signal :=
  let asked := Signal.recommendAsked request.user request.mode
  let (pool?, cache, catalog, signals) := r.cache.poolFor r.catalog request.mode
  let r := { r with cache, catalog }
  match pool? with
  | none => (none, r, asked :: signals)
  | some (.error fault) => (some (.error fault), r, asked :: signals)
  | some (.ok pool) =>
    let (selection, selector) := r.selector.select pool request.exclude
    (some (.ok selection.products), { r with selector },
      asked :: signals ++
        [.recommended request.user pool.length selection.available selection.products])

/-- Reads a request, asks the gate and serves it. -/
def list (r : Recommender γ σ κ τ) (user : String) (raws : List String) :
    Option Answer × Recommender γ σ κ τ × List Signal :=
  match Request.parse user raws with
  | .error fault => (some (.error fault), r, [])
  | .ok request =>
    let (enabled, gate, asked) := FlagGate.ask r.gate r.cacheFlag false
    let (answer, r, signals) := { r with gate }.recommend (request.withMode (.ofBool enabled))
    (answer, r, asked ++ signals)

end Recommender

end Shortlist
