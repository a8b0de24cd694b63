import Shortlist.Address.V6

/-!
# Socket addresses

A socket address is an address of either kind with a port; one of eight groups stands in brackets
and may name a scope. `Socket.text` writes one in its canonical form and `Socket.parse?` reads any
form of it, such as a port with leading zeros.
-/

namespace Shortlist.Address

open Shortlist.Text (isDigit numberOf)

/-- An address with a port. -/
inductive Socket where
  | v4 (address : V4) (port : UInt16)
  | v6 (address : V6) (scope : UInt32) (port : UInt16)
  deriving DecidableEq, Repr

namespace Socket

/-- The port of a socket address. -/
def port : Socket → UInt16
  | v4 _ port | v6 _ _ port => port

/-- The canonical text. -/
def text : Socket → String
  | v4 address port => address.text ++ ":" ++ toString port.toNat
  | v6 address scope port =>
    let zone := if scope = 0 then "" else "%" ++ toString scope.toNat
    "[" ++ address.text ++ zone ++ "]:" ++ toString port.toNat

/-- Reads digits of any number that write at most `greatest`, and tells what follows them. -/
def readNumber (greatest : Nat) (cs : List Char) : Option (Nat × List Char) :=
  let (ds, rest) := cs.span isDigit
  let n := numberOf 10 ds
  if ds.isEmpty ∨ greatest < n then none else some (n, rest)

/-- Reads a colon and a port. -/
def readPort : List Char → Option (UInt16 × List Char)
  | ':' :: cs => (readNumber 65535 cs).map fun r => (UInt16.ofNat r.1, r.2)
  | _ => none

/-- Reads the scope behind an address; where none can be read it is zero and nothing is taken. -/
def readScope (cs : List Char) : UInt32 × List Char :=
  match cs with
  | '%' :: r =>
    match readNumber 0xFFFFFFFF r with
    | some (n, rest) => (UInt32.ofNat n, rest)
    | none => (0, cs)
  | _ => (0, cs)

/-- Reads a socket address of four bytes. -/
def readV4 (cs : List Char) : Option (Socket × List Char) := do
  let (address, cs) ← V4.read cs
  let (port, cs) ← readPort cs
  return (.v4 address port, cs)

/-- Reads a socket address of eight groups. -/
def readV6 : List Char → Option (Socket × List Char)
  | '[' :: cs =>
    match V6.read cs with
    | none => none
    | some (address, cs) =>
      let (scope, cs) := readScope cs
      match cs with
      | ']' :: cs => (readPort cs).map fun r => (.v6 address scope r.1, r.2)
      | _ => none
  | _ => none

/-- Reads a text that is one socket address and nothing else. -/
def parse? (s : String) : Option Socket :=
  let cs := s.toList
  match (readV4 cs).or (readV6 cs) with
  | some (address, []) => some address
  | _ => none

end Socket

end Shortlist.Address
