/-!
# TOML values

The values of a TOML document. The entries of a table are in the order of the document.
-/

namespace Shortlist

/-- A TOML value. -/
inductive Toml where
  | text (s : String)
  | whole (n : Int)
  | real (x : Float)
  | bool (b : Bool)
  /-- A date, a time of day, or both, as it was written. -/
  | moment (s : String)
  | array (items : List Toml)
  | table (entries : List (String × Toml))

namespace Toml

instance : Inhabited Toml := ⟨table []⟩

/-- The entries of a table. -/
def entries? : Toml → Option (List (String × Toml))
  | table es => some es
  | _ => none

end Toml

end Shortlist
