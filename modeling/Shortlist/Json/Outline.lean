import Shortlist.Json.Reader

/-!
# The outline of a JSON text

The items of an array or the members of an object, each as it is written. What is only passed over
is checked by its syntax alone: numbers may be of any size, arrays and objects nested to any depth,
and strings may have halves without a partner and bytes that are no UTF-8.

A text is given by its bytes. Each stands here as the character of its number, so that the bytes
below 128, which are all that JSON's syntax knows, stand as what they are. `text?` reads the text
that bytes encode.
-/

namespace Shortlist.Json

open Literal (isSpace unit? short?)

/-! ## Bytes -/

/-- The bytes of a text, each as the character of its number. -/
def ofBytes (bytes : ByteArray) : List Char := bytes.data.toList.map Char.ofUInt8

/-- The bytes that stand as characters. -/
def toBytes (cs : List Char) : ByteArray := ⟨(cs.map Char.toUInt8).toArray⟩

/-- The text that bytes encode. -/
def text? (cs : List Char) : Option String := String.fromUTF8? (toBytes cs)

/-! ## Passing over a value -/

/-- What follows the closing quote of a string. -/
def skipString : List Char → Option (List Char)
  | [] => none
  | '"' :: rest => some rest
  | '\\' :: 'u' :: a :: b :: c :: d :: rest =>
    if (unit? a b c d).isSome then skipString rest else none
  | '\\' :: letter :: rest => if (short? letter).isSome then skipString rest else none
  | c :: rest => if c = '\\' ∨ c.toNat < 0x20 then none else skipString rest

/-- What follows a string. -/
def skipQuoted : List Char → Option (List Char)
  | '"' :: rest => skipString rest
  | _ => none

/-- Reads what is passed over as it is written. -/
def asWritten (pass : List Char → Option (List Char)) (cs : List Char) :
    Option (List Char × List Char) :=
  (pass cs).map fun rest => (cs.take (cs.length - rest.length), rest)

/-- Reads a member: its name, and its value as it is written. -/
def readMemberAs {β : Type} (name? : List Char → Option β)
    (pass : List Char → Option (List Char)) (cs : List Char) :
    Option ((β × List Char) × List Char) := do
  let (quoted, rest) ← asWritten skipQuoted cs
  let name ← name? quoted
  match skip rest with
  | ':' :: rest =>
    let (value, rest) ← asWritten pass (skip rest)
    return ((name, value), rest)
  | _ => none

/-- Reads parts with commas between them up to a closing bracket; there are `count` at most. -/
def readParts {α : Type} (close : Char) (part : List Char → Option (α × List Char)) :
    (count : Nat) → List Char → Option (List α × List Char)
  | 0, _ => none
  | count + 1, cs =>
    match part (skip cs) with
    | none => none
    | some (a, rest) =>
      match skip rest with
      | [] => none
      | c :: rest =>
        if c = close then some ([a], rest)
        else if c = ',' then
          (readParts close part count rest).map fun (as, rest) => (a :: as, rest)
        else none

/-- Reads what is behind an opening bracket: no parts, or some. -/
def readBracketed {α : Type} (close : Char) (part : List Char → Option (α × List Char))
    (cs : List Char) : Option (List α × List Char) :=
  match skip cs with
  | [] => none
  | c :: rest => if c = close then some ([], rest) else readParts close part cs.length cs

/-- What follows a value, in which arrays and objects are nested less than `depth` times. -/
def skipValue : (depth : Nat) → List Char → Option (List Char)
  | 0, _ => none
  | depth + 1, cs =>
    match cs with
    | 'n' :: 'u' :: 'l' :: 'l' :: rest => some rest
    | 't' :: 'r' :: 'u' :: 'e' :: rest => some rest
    | 'f' :: 'a' :: 'l' :: 's' :: 'e' :: rest => some rest
    | '"' :: rest => skipString rest
    | '[' :: rest => (readBracketed ']' (asWritten (skipValue depth)) rest).map (·.2)
    | '\x7b' :: rest =>
      (readBracketed '\x7d' (readMemberAs (fun _ => some ()) (skipValue depth)) rest).map (·.2)
    | _ => (readNumeral cs).map (·.2)

/-! ## Outlines -/

/-- The outline of an array or an object. -/
inductive Outline where
  /-- The items as they are written. -/
  | array (items : List (List Char))
  /-- The members, with values as they are written. -/
  | object (members : List (String × List Char))

/-- The name that a string is, by its bytes. -/
def Outline.name? (quoted : List Char) : Option String := do
  match (← text? quoted).toList with
  | '"' :: inner =>
    match Literal.readBody inner with
    | some (name, []) => some (String.ofList name)
    | _ => none
  | _ => none

/-- Reads the outline that a text begins with, in which there are arrays and objects nested less
than `depth` times. -/
def Outline.readFront (depth : Nat) : List Char → Option (Outline × List Char)
  | '[' :: rest =>
    (readBracketed ']' (asWritten (skipValue depth)) rest).map fun (items, rest) =>
      (array items, rest)
  | '\x7b' :: rest =>
    (readBracketed '\x7d' (readMemberAs name? (skipValue depth)) rest).map fun (members, rest) =>
      (object members, rest)
  | _ => none

/-- Reads the outline of a text that is one array or object and nothing else but blanks. No text is
nested deeper than it is long. -/
def Outline.read (cs : List Char) : Option Outline := do
  let (outline, rest) ← readFront cs.length (skip cs)
  if rest.all isSpace then return outline else none

end Shortlist.Json
