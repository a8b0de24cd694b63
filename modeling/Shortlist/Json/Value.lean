import Shortlist.Decimal.Text
import Shortlist.Json.Literal

/-!
# JSON values

A number is kept as a whole number when it is written as one and fits 64 bits, and as a float
otherwise. The members of an object are kept in the order of the text; `Json.member?` gives the
last of equal names. `Json.compact` writes a value without blanks, and `Json.shape` shows it as
messages do, with the members of an object in the order of their names.
-/

namespace Shortlist

/-- A JSON value. -/
inductive Json where
  | null
  | bool (b : Bool)
  /-- A whole number. -/
  | whole (n : Int)
  /-- Any other number. -/
  | real (x : Float)
  | text (s : String)
  | array (items : List Json)
  | object (members : List (String × Json))

namespace Json

instance : Inhabited Json := ⟨null⟩

/-- A count as a value. -/
def count (n : Nat) : Json := whole n

/-- The last member with a name. -/
def member? (name : String) : Json → Option Json
  | object ms => ms.reverse.lookup name
  | _ => none

/-- A text as a JSON string. -/
def quoted (s : String) : String := String.ofList (Literal.write s.toList)

mutual

/-- A value without blanks. -/
def compact : Json → String
  | null => "null"
  | bool b => if b then "true" else "false"
  | whole n => toString n
  | real x => Decimal.pointed x
  | text s => quoted s
  | array items => "[" ++ String.intercalate "," (compactItems items) ++ "]"
  | object ms => "\x7b" ++ String.intercalate "," (compactMembers ms) ++ "\x7d"

/-- The items of an array, each without blanks. -/
def compactItems : List Json → List String
  | [] => []
  | v :: vs => compact v :: compactItems vs

/-- The members of an object, each without blanks. -/
def compactMembers : List (String × Json) → List String
  | [] => []
  | (name, v) :: ms => (quoted name ++ ":" ++ compact v) :: compactMembers ms

end

/-- Puts a member into a list sorted by name, in place of one with the same name. -/
def putMember (name : String) (s : String) : List (String × String) → List (String × String)
  | [] => [(name, s)]
  | (n, t) :: rest =>
    if name < n then (name, s) :: (n, t) :: rest
    else if name = n then (name, s) :: rest
    else (n, t) :: putMember name s rest

mutual

/-- A value as messages show it: `Null`, `Bool(true)`, `Number(1.5)`, `String("x")`,
`Array [Null]`, `Object \x7b"a": Null\x7d`. -/
def shape : Json → String
  | null => "Null"
  | bool b => if b then "Bool(true)" else "Bool(false)"
  | whole n => "Number(" ++ toString n ++ ")"
  | real x => "Number(" ++ Decimal.pointed x ++ ")"
  | text s => "String(" ++ Text.quote s ++ ")"
  | array items => "Array [" ++ String.intercalate ", " (shapeItems items) ++ "]"
  | object ms =>
    let sorted := (shapeMembers ms).foldl (fun acc m => putMember m.1 m.2 acc) []
    "Object \x7b" ++
      String.intercalate ", " (sorted.map fun m => Text.quote m.1 ++ ": " ++ m.2) ++ "\x7d"

/-- The items of an array, each as messages show it. -/
def shapeItems : List Json → List String
  | [] => []
  | v :: vs => shape v :: shapeItems vs

/-- The members of an object, each as messages show it. -/
def shapeMembers : List (String × Json) → List (String × String)
  | [] => []
  | (name, v) :: ms => (name, shape v) :: shapeMembers ms

end

end Json

end Shortlist
