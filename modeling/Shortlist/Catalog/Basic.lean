import Shortlist.Fault
import Shortlist.Product

/-!
# Product catalogs

A catalog lists its product ids in its own order, repeats allowed, or fails. A call may also never
come back, or be given up before it does. `Scripted` is a catalog whose answers are laid down
beforehand.
-/

namespace Shortlist

/-- What a catalog call brings when it comes back. -/
abbrev Listing := Except Fault (List ProductId)

/-- A catalog, as a state that each call advances. -/
class Catalog (κ : Type) where
  /-- The name that logs use. -/
  name : κ → String
  /-- The next call, with no answer if it never comes back. -/
  call : κ → Option Listing × κ

namespace Catalog

/-- A catalog with answers laid down beforehand. The last one is given again for ever, and without
any answers the catalog lists nothing. -/
structure Scripted where
  name : String
  answers : List (Option Listing)
  /-- How many calls were made. -/
  calls : Nat := 0

instance : Catalog Scripted where
  name c := c.name
  call c :=
    let c' := { c with calls := c.calls + 1 }
    match c.answers with
    | [] => (some (.ok []), c')
    | [a] => (a, c')
    | a :: later => (a, { c' with answers := later })

end Catalog

end Shortlist
