import Shortlist.Json.Value
import Shortlist.Product

/-!
# Product ids as JSON

A product id is the JSON string of its text, and is read from any JSON text that is one string.
-/

namespace Shortlist.ProductId

/-- The JSON text of an id. -/
def toJson (id : ProductId) : String := Json.quoted id.text

/-- Reads an id from a JSON text. -/
def ofJson? (json : String) : Option ProductId :=
  (Json.Literal.read json.toList).map fun cs => ⟨String.ofList cs⟩

end Shortlist.ProductId
