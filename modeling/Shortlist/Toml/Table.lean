import Shortlist.Toml.Value

/-!
# Tables under construction

The lines of a document fill tables that must not be defined twice. A table is *implied* if only a
longer key has named it so far; an implied one that a dotted key named is *dotted*. A dotted key may
add to dotted tables alone, and a header may define an implied table that is not dotted.

`Node.descend` follows a key to the table that holds its last part, implying tables on the way;
`Node.put` adds a value, and `Node.toToml` is the finished value.
-/

namespace Shortlist.Toml

/-- An entry of a table under construction. -/
inductive Node where
  /-- A finished value. -/
  | value (v : Toml)
  | table (implied dotted : Bool) (entries : List (String × Node))
  /-- An array whose tables are defined by headers, each by its entries. -/
  | tables (items : List (List (String × Node)))

/-- The entries of a table. -/
abbrev Entries := List (String × Node)

namespace Node

/-- Changes the last item of a list, if the change is possible. -/
def changeLast {α : Type} (f : α → Option α) : List α → Option (List α)
  | [] => none
  | [a] => (f a).map ([·])
  | a :: rest => (changeLast f rest).map (a :: ·)

/-- Changes the entry with a name, if it is there; a change may be impossible. -/
def changeEntry (name : String) (f : Node → Option Node) : Entries → Option Entries
  | [] => none
  | (n, v) :: rest =>
    if n = name then (f v).map fun v => (n, v) :: rest
    else (changeEntry name f rest).map ((n, v) :: ·)

/-- Changes the table at the end of a path, where `change` gets whether it is dotted, and its
entries. Tables that are missing on the way are implied, dotted ones by a dotted key, and a dotted
key must not lead through a table that is not implied. -/
def descend (byKey : Bool) (change : Bool → Entries → Option Entries) :
    List String → Bool → Entries → Option Entries
  | [], dotted, es => change dotted es
  | name :: path, _, es =>
    match es.lookup name with
    | none => do
      let inner ← descend byKey change path byKey []
      return es ++ [(name, .table true byKey inner)]
    | some (.value _) => none
    | some (.table implied dotted inner) =>
      if byKey && !implied then none
      else do
        let inner ← descend byKey change path dotted inner
        changeEntry name (fun _ => some (.table implied dotted inner)) es
    | some (.tables items) => do
      let items ← changeLast (descend byKey change path false) items
      changeEntry name (fun _ => some (.tables items)) es

/-- The entries of the table at the end of a path, none if it is missing; a value is no table. -/
def entriesAt? : List String → Entries → Option Entries
  | [], es => some es
  | name :: path, es =>
    match es.lookup name with
    | none => some []
    | some (.value _) => none
    | some (.table _ _ inner) => entriesAt? path inner
    | some (.tables items) => entriesAt? path (items.getLast?.getD [])

/-- Adds a value under a key, given as the path to its last part and that part. A key of one part
belongs into a table that is not dotted, a longer one into a dotted table, and no key may be there
twice. -/
def put (path : List String) (name : String) (v : Toml) (es : Entries) : Option Entries :=
  descend true (fun dotted es =>
    if dotted = path.isEmpty ∨ (es.lookup name).isSome then none
    else some (es ++ [(name, .value v)])) path false es

mutual

/-- The value of an entry. -/
def toToml : Node → Toml
  | value v => v
  | table _ _ es => .table (entriesToToml es)
  | tables items => .array (itemsToToml items)

/-- The values of entries. -/
def entriesToToml : Entries → List (String × Toml)
  | [] => []
  | (name, v) :: rest => (name, toToml v) :: entriesToToml rest

/-- The tables of an array. -/
def itemsToToml : List Entries → List Toml
  | [] => []
  | es :: rest => .table (entriesToToml es) :: itemsToToml rest

end

end Node

/-- A document under construction: all tables but the current one, which the latest header has
begun and which is put in its place once its lines are read. -/
structure Draft where
  root : Entries := []
  /-- The entries of the current table. -/
  current : Entries := []
  /-- The path of its header; empty before the first header. -/
  path : List String := []
  /-- Whether it is an item of an array. -/
  inArray : Bool := false

namespace Draft

/-- Changes the table that holds the last part of a header's path. -/
def changeParent (d : Draft) (path : List String) (change : String → Entries → Option Entries) :
    Option Entries :=
  match path.getLast? with
  | none => none
  | some name => Node.descend false (fun _ es => change name es) path.dropLast false d.root

/-- Adds an item to an array of tables, which is begun if it is missing. -/
def addItem (item : List Entries) (name : String) (es : Entries) : Option Entries :=
  match es.lookup name with
  | none => some (es ++ [(name, .tables item)])
  | some (.tables items) => Node.changeEntry name (fun _ => some (.tables (items ++ item))) es
  | some _ => none

/-- Puts the current table in its place. -/
def close (d : Draft) : Option Entries :=
  if d.path.isEmpty then some d.current
  else d.changeParent d.path fun name es =>
    if d.inArray then addItem [d.current] name es
    else if (es.lookup name).isSome then none
    else some (es ++ [(name, .table false false d.current)])

/-- Begins the table of a header: one that was implied keeps its entries. -/
def beginTable (d : Draft) (path : List String) : Option Draft := do
  let root ← d.close
  let d : Draft := { root, path }
  let name ← path.getLast?
  let siblings ← Node.entriesAt? path.dropLast d.root
  match siblings.lookup name with
  | none =>
    let root ← d.changeParent path fun _ es => some es
    return { d with root }
  | some (.table true false inner) =>
    let root ← d.changeParent path fun name es => some (es.filter (·.1 != name))
    return { d with root, current := inner }
  | some _ => none

/-- Begins an item of an array of tables. -/
def beginItem (d : Draft) (path : List String) : Option Draft := do
  let root ← d.close
  let d : Draft := { root, path, inArray := true }
  let root ← d.changeParent path (addItem [])
  return { d with root }

/-- Adds a value to the current table. -/
def put (d : Draft) (path : List String) (name : String) (v : Toml) : Option Draft := do
  return { d with current := ← Node.put path name v d.current }

end Draft

end Shortlist.Toml
