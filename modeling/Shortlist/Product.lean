import Std.Data.ExtTreeSet

/-!
# Product ids

A product id is an opaque text. Ids are ordered by their UTF-8 bytes, which is the order of their
code points, and a set of ids is kept in that order; two sets with the same members are equal.
`ProductSet.arrivals` reads a list of ids against a set and keeps what is new, in order: the cache
uses it to take in a listing, and the selector to leave out what was seen.
-/

namespace Shortlist

/-- The identifier of a catalog item. -/
structure ProductId where
  text : String
  deriving DecidableEq, Repr

namespace ProductId

instance : Ord ProductId := ⟨fun a b => compare a.text b.text⟩

theorem compare_eq (a b : ProductId) : compare a b = compare a.text b.text := rfl

instance : Std.TransOrd ProductId where
  eq_swap {a b} := by simpa only [compare_eq] using Std.OrientedCmp.eq_swap
  isLE_trans {a b c} := by
    simpa only [compare_eq] using @Std.TransCmp.isLE_trans String compare _ _ _ _

instance : Std.LawfulEqOrd ProductId where
  compare_self {a} := by simp only [compare_eq]; exact Std.ReflCmp.compare_self
  eq_of_compare {a b} h := by
    cases a; cases b
    simp only [compare_eq] at h
    rw [Std.LawfulEqCmp.eq_of_compare h]

end ProductId

/-- A set of product ids. -/
abbrev ProductSet := Std.ExtTreeSet ProductId

namespace ProductSet

/-- The members of a list as a set. -/
def ofList (ids : List ProductId) : ProductSet := ids.foldl (·.insert ·) ∅

/-- The ids of a list that a set does not hold, each at its first occurrence, with the set that
they have been added to. -/
def arrivals (known : ProductSet) : List ProductId → List ProductId × ProductSet
  | [] => ([], known)
  | id :: rest =>
    if known.contains id then arrivals known rest
    else
      let later := arrivals (known.insert id) rest
      (id :: later.1, later.2)

end ProductSet

end Shortlist
