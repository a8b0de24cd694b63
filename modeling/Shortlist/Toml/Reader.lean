import Shortlist.Toml.Moment
import Shortlist.Toml.Number
import Shortlist.Toml.Quoted
import Shortlist.Toml.Table

/-!
# Reading TOML

A document is read line by line: blank lines, comments, headers of tables and of items of arrays,
and values under keys. Keys have fewer than `maxDepth` parts, and arrays and inline tables are
nested fewer than `maxDepth` levels deep.

The functions that call each other take an amount of fuel, which the wrappers set to more than the
number of characters; every call reads at least one of them.
-/

namespace Shortlist.Toml

open Shortlist.Text (isLetterOrDigit)

/-- The bound on the parts of keys and on the levels of nesting. -/
def maxDepth : Nat := 80

/-! ## Keys -/

/-- A character of a key without quotes. -/
def isKeyChar (c : Char) : Bool := isLetterOrDigit c || c == '-' || c == '_'

/-- Reads one part of a key. -/
def readKeyPart (cs : List Char) : Option (String × List Char) :=
  match cs with
  | '"' :: _ | '\'' :: _ => readShortString cs
  | _ =>
    let (name, r) := cs.span isKeyChar
    if name.isEmpty then none else some (String.ofList name, r)

/-- Reads the parts of a key between points; blanks may stand around each. -/
def readKeyParts : (fuel : Nat) → List Char → Option (List String × List Char)
  | 0, _ => none
  | fuel + 1, cs => do
    let (part, r) ← readKeyPart (skipSpace cs)
    match skipSpace r with
    | '.' :: r => do
      let (parts, r) ← readKeyParts fuel r
      return (part :: parts, r)
    | r => return ([part], r)

/-- A key: the path to its last part, and that part. -/
structure Key where
  path : List String
  name : String

/-- Reads a key: all parts in order. -/
def readPath (cs : List Char) : Option (List String × List Char) := do
  let (parts, r) ← readKeyParts (cs.length + 1) cs
  if maxDepth ≤ parts.length then none
  return (parts, r)

/-- Reads a key and the equals sign behind it. -/
def readKey (cs : List Char) : Option (Key × List Char) := do
  let (parts, r) ← readPath cs
  let name ← parts.getLast?
  match r with
  | '=' :: r => return ({ path := parts.dropLast, name }, r)
  | _ => none

/-! ## Values -/

/-- Reads a value that holds no others. -/
def readScalarValue (cs : List Char) : Option (Toml × List Char) :=
  match cs with
  | '"' :: _ | '\'' :: _ => (readString cs).map fun x => (.text x.1, x.2)
  | 't' :: 'r' :: 'u' :: 'e' :: r => some (.bool true, r)
  | 'f' :: 'a' :: 'l' :: 's' :: 'e' :: r => some (.bool false, r)
  | _ =>
    match readMoment cs with
    | some (s, r) => some (.moment s, r)
    | none => readNumber cs

mutual

/-- Reads a value inside `depth` levels. -/
def readValue : (fuel : Nat) → (depth : Nat) → List Char → Option (Toml × List Char)
  | 0, _, _ => none
  | fuel + 1, depth, cs =>
    match cs with
    | '[' :: r =>
      if maxDepth ≤ depth + 1 then none
      else (readItems fuel (depth + 1) r).map fun x => (.array x.1, x.2)
    | '\x7b' :: r =>
      if maxDepth ≤ depth + 1 then none
      else match skipSpace r with
        | '\x7d' :: r => some (.table [], r)
        | r => (readMembers fuel (depth + 1) [] r).map fun x =>
          (.table (Node.entriesToToml x.1), x.2)
    | cs => readScalarValue cs

/-- Reads the items of an array up to its closing bracket; a comma may stand before that. -/
def readItems : (fuel : Nat) → (depth : Nat) → List Char → Option (List Toml × List Char)
  | 0, _, _ => none
  | fuel + 1, depth, cs => do
    match ← skipBetween cs with
    | ']' :: r => return ([], r)
    | r =>
      let (v, r) ← readValue fuel depth r
      match ← skipBetween r with
      | ']' :: r => return ([v], r)
      | ',' :: r => do
        let (vs, r) ← readItems fuel depth r
        return (v :: vs, r)
      | _ => none

/-- Reads the members of an inline table up to its closing brace; `es` are the ones before. -/
def readMembers : (fuel : Nat) → (depth : Nat) → Entries → List Char →
    Option (Entries × List Char)
  | 0, _, _, _ => none
  | fuel + 1, depth, es, cs => do
    let (key, r) ← readKey cs
    let (v, r) ← readValue fuel depth (skipSpace r)
    let es ← Node.put key.path key.name v es
    match skipSpace r with
    | '\x7d' :: r => return (es, r)
    | ',' :: r => readMembers fuel depth es r
    | _ => none

end

/-! ## Documents -/

/-- Reads a header behind its opening brackets: its path, and what follows its line. -/
def readHeader (closing : List Char) (cs : List Char) : Option (List String × List Char) := do
  let (path, r) ← readPath cs
  if closing.isPrefixOf r then
    return (path, ← readLineEnd (r.drop closing.length))
  else none

/-- Reads the lines of a document. -/
def readLines : (fuel : Nat) → Draft → List Char → Option Draft
  | 0, _, _ => none
  | fuel + 1, d, cs =>
    match skipSpace cs with
    | [] => some d
    | '#' :: r => do readLines fuel d (← readLineEnd ('#' :: r))
    | '[' :: '[' :: r => do
      let (path, r) ← readHeader [']', ']'] r
      readLines fuel (← d.beginItem path) r
    | '[' :: r => do
      let (path, r) ← readHeader [']'] r
      readLines fuel (← d.beginTable path) r
    | c :: r =>
      if c = '\n' ∨ c = '\r' then do readLines fuel d (← readNewline (c :: r))
      else do
        let (key, r) ← readKey (c :: r)
        let (v, r) ← readValue (r.length + 1) 0 (skipSpace r)
        let r ← readLineEnd r
        readLines fuel (← d.put key.path key.name v) r

/-- Reads a document; a byte order mark at its front does not count. -/
def read (s : String) : Option (List (String × Toml)) := do
  let cs := match s.toList with
    | '\uFEFF' :: r => r
    | cs => cs
  let d ← readLines (cs.length + 1) {} cs
  return Node.entriesToToml (← d.close)

end Shortlist.Toml
