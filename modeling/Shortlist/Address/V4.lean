import Shortlist.Text.Digits

/-!
# Addresses of four bytes

An address of four bytes is written as four decimal numbers between points. It is read back only in
that form: no number has more than three digits or a leading zero, and none exceeds 255.
-/

namespace Shortlist.Address

open Shortlist.Text (isDigit numberOf)

/-- An address of four bytes. -/
structure V4 where
  a : UInt8
  b : UInt8
  c : UInt8
  d : UInt8
  deriving DecidableEq, Repr

namespace V4

/-- The four numbers between points. -/
def text (v : V4) : String :=
  String.intercalate "." ([v.a, v.b, v.c, v.d].map fun n => toString n.toNat)

/-- The address of a number of 32 bits, its highest byte first. -/
def ofNumber (n : Nat) : V4 :=
  ⟨UInt8.ofNat (n / 0x1000000), UInt8.ofNat (n / 0x10000), UInt8.ofNat (n / 0x100), UInt8.ofNat n⟩

/-- Reads one number, and tells what follows it. -/
def readByte (cs : List Char) : Option (UInt8 × List Char) :=
  let (ds, rest) := cs.span isDigit
  let n := numberOf 10 ds
  if ds.isEmpty ∨ 3 < ds.length ∨ (ds.head? = some '0' ∧ 1 < ds.length) ∨ 255 < n then none
  else some (UInt8.ofNat n, rest)

/-- Reads a point and a number after it. -/
def readPointByte : List Char → Option (UInt8 × List Char)
  | '.' :: cs => readByte cs
  | _ => none

/-- Reads an address at the front of a text, and tells what follows it. -/
def read (cs : List Char) : Option (V4 × List Char) := do
  let (a, cs) ← readByte cs
  let (b, cs) ← readPointByte cs
  let (c, cs) ← readPointByte cs
  let (d, cs) ← readPointByte cs
  return (⟨a, b, c, d⟩, cs)

end V4

end Shortlist.Address
