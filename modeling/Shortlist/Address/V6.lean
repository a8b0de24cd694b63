import Shortlist.Address.V4

/-!
# Addresses of eight groups

An address of eight groups of sixteen bits is written as hexadecimal numbers between colons, where
the longest run of zero groups, the first of equally long ones, is left out between two colons if
it has at least two groups. An address that carries one of four bytes behind `::ffff:` may show it
in its own form.

A reader accepts any one run of groups left out, a single group included, and four bytes in their
own form in place of the last two groups.
-/

namespace Shortlist.Address

open Shortlist.Text (isHexDigit numberOf)

/-- An address of eight groups. -/
structure V6 where
  groups : List UInt16
  length_eq : groups.length = 8 := by rfl
  deriving DecidableEq, Repr

namespace V6

/-! ## Text -/

/-- How many zero groups stand at the front. -/
def zerosAtFront (gs : List UInt16) : Nat := (gs.takeWhile (· == 0)).length

/-- The place and length of the longest run of zero groups, the first of equally long ones. -/
def longestZeros : List UInt16 → Nat × Nat
  | [] => (0, 0)
  | g :: gs =>
    let here := zerosAtFront (g :: gs)
    let later := longestZeros gs
    if later.2 ≤ here then (0, here) else (later.1 + 1, later.2)

/-- Groups in lower-case hexadecimal between colons. -/
def groupsText (gs : List UInt16) : String :=
  String.intercalate ":" (gs.map fun g => String.ofList (Nat.toDigits 16 g.toNat))

/-- The groups of an address, the longest run of zeros left out. -/
def compressed (v : V6) : String :=
  let (start, count) := longestZeros v.groups
  if count < 2 then groupsText v.groups
  else groupsText (v.groups.take start) ++ "::" ++ groupsText (v.groups.drop (start + count))

/-- The address of four bytes that this one carries behind `::ffff:`. -/
def mapped? (v : V6) : Option V4 :=
  match v.groups with
  | [0, 0, 0, 0, 0, 0xFFFF, high, low] => some (.ofNumber (high.toNat * 0x10000 + low.toNat))
  | _ => none

/-- The text of an address; one of four bytes that it carries is shown in its own form. -/
def text (v : V6) : String :=
  match v.mapped? with
  | some inner => "::ffff:" ++ inner.text
  | none => v.compressed

/-! ## Reading -/

/-- Reads one group, and tells what follows it. -/
def readGroup (cs : List Char) : Option (UInt16 × List Char) :=
  let (ds, rest) := cs.span isHexDigit
  if ds.isEmpty ∨ 4 < ds.length then none
  else some (UInt16.ofNat (numberOf 16 ds), rest)

/-- The two groups of an address of four bytes. -/
def groupsOf (v : V4) : List UInt16 :=
  [UInt16.ofNat (v.a.toNat * 256 + v.b.toNat), UInt16.ofNat (v.c.toNat * 256 + v.d.toNat)]

/-- Groups at the front of a text. -/
structure Front where
  groups : List UInt16
  /-- Whether the last two were written as four bytes; nothing may follow these. -/
  bytes : Bool
  rest : List Char

/-- Reads up to `limit` groups between colons; `colon` tells whether one has to come first. -/
def readGroups : (limit : Nat) → (colon : Bool) → List Char → Front
  | 0, _, cs => ⟨[], false, cs⟩
  | limit + 1, colon, cs =>
    let body? := if colon then (match cs with | ':' :: r => some r | _ => none) else some cs
    match body? with
    | none => ⟨[], false, cs⟩
    | some body =>
      match if limit = 0 then none else V4.read body with
      | some (v, rest) => ⟨groupsOf v, true, rest⟩
      | none =>
        match readGroup body with
        | none => ⟨[], false, cs⟩
        | some (g, rest) =>
          let later := readGroups limit true rest
          ⟨g :: later.groups, later.bytes, later.rest⟩

/-- An address from groups, if there are eight of them. -/
def ofGroups? (gs : List UInt16) : Option V6 :=
  if h : gs.length = 8 then some ⟨gs, h⟩ else none

/-- Reads an address at the front of a text, and tells what follows it. -/
def read (cs : List Char) : Option (V6 × List Char) :=
  let front := readGroups 8 false cs
  if front.groups.length = 8 then (ofGroups? front.groups).map (·, front.rest)
  else if front.bytes then none
  else match front.rest with
    | ':' :: ':' :: r =>
      let back := readGroups (7 - front.groups.length) false r
      let zeros := List.replicate (8 - front.groups.length - back.groups.length) 0
      (ofGroups? (front.groups ++ zeros ++ back.groups)).map (·, back.rest)
    | _ => none

end V6

end Shortlist.Address
