import Shortlist.Exclusions

/-!
# Requests

What a recommendation request carries once it has been read: who asks, what the caller has already
seen, and whether the pool comes from the cache.
-/

namespace Shortlist

/-- Where the pool of a request comes from. -/
inductive CacheMode where
  /-- From the cache, which refreshes now and then. -/
  | enabled
  /-- Live from the catalog; the cache is neither read nor written. -/
  | disabled
  deriving DecidableEq, Repr

namespace CacheMode

instance : Inhabited CacheMode := ⟨disabled⟩

/-- Whether the cache serves the request. -/
def isEnabled : CacheMode → Bool
  | enabled => true
  | disabled => false

/-- The mode that a flag's value asks for. -/
def ofBool : Bool → CacheMode
  | true => enabled
  | false => disabled

/-- The name of a mode, as the trace shows it. -/
def name : CacheMode → String
  | enabled => "Enabled"
  | disabled => "Disabled"

@[simp] theorem isEnabled_ofBool (b : Bool) : (ofBool b).isEnabled = b := by cases b <;> rfl

end CacheMode

/-- A request that has been read. -/
structure Request where
  /-- Who asks; it is logged and nothing else depends on it. -/
  user : String
  /-- The products that the caller has already seen. -/
  exclude : ProductSet
  /-- The flag's decision for this request. -/
  mode : CacheMode := default

namespace Request

/-- Reads the fields of a request. The cache stays disabled until the flag has been asked. -/
def parse (user : String) (raws : List String) : Except Fault Request :=
  (Exclusions.parse raws).map fun exclude => { user, exclude }

/-- The request with the mode that the flag decided. -/
def withMode (r : Request) (mode : CacheMode) : Request := { r with mode }

end Request

end Shortlist
