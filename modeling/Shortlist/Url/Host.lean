import Shortlist.Address.V6
import Shortlist.Idna.Name
import Shortlist.Url.Percent

/-!
# Hosts of URLs

A host is an address in brackets, an address of four bytes, or a name. With a special scheme the
name is decoded and brought into its ASCII form, and a name whose last label is a number is an
address of four bytes, in any of the forms that numbers may take: decimal, octal after `0`,
hexadecimal after `0x`, and fewer than four of them, the last then standing for all the bytes that
remain.
-/

namespace Shortlist.Url

open Shortlist.Address Shortlist.Text

/-- A host. -/
inductive Host where
  | name (text : List Char)
  | v4 (address : V4)
  | v6 (address : V6)
  deriving DecidableEq

namespace Host

/-- The text of a host. -/
def text : Host → String
  | name text => String.ofList text
  | v4 address => address.text
  | v6 address => "[" ++ address.compressed ++ "]"

/-- The characters that no host may hold. -/
def isForbidden (c : Char) : Bool :=
  c ∈ ['\x00', '\t', '\n', '\r', ' ', '#', '/', ':', '<', '>', '?', '@', '[', '\\', ']', '^', '|']

/-- The characters that no name with a special scheme may hold. -/
def isForbiddenInName (c : Char) : Bool :=
  isForbidden c || c.toNat < 0x20 || c == '%' || c.toNat == 0x7F

/-- The labels of a name; one empty label at the end does not count. -/
def labels (cs : List Char) : List (List Char) :=
  match (cs.splitOn '.').reverse with
  | [] :: rest@(_ :: _) => rest.reverse
  | all => all.reverse

/-- The number that a label writes, if it writes one: its base shows in front. -/
def labelNumber? (label : List Char) : Option Nat :=
  let (base, ds) : Nat × List Char := match label with
    | '0' :: 'x' :: ds | '0' :: 'X' :: ds => (16, ds)
    | '0' :: d :: ds => (8, d :: ds)
    | ds => (10, ds)
  if label.isEmpty then none
  else if ds.all fun c => (hexValue? c).any (· < base) then some (numberOf base ds)
  else none

/-- Whether a name has to be read as an address of four bytes. -/
def endsInNumber (cs : List Char) : Bool :=
  match (labels cs).getLast? with
  | none => false
  | some label =>
    (!label.isEmpty && label.all isDigit) ||
      (match label with
        | '0' :: 'x' :: ds | '0' :: 'X' :: ds => ds.all isHexDigit
        | _ => false)

/-- The address of numbers: each but the last is a byte, the last fills all bytes that remain. -/
def addressOf? (numbers : List Nat) : Option V4 :=
  match numbers.reverse with
  | [] => none
  | last :: before =>
    let bytes := before.reverse
    if 3 < bytes.length ∨ bytes.any (255 < ·) ∨ Nat.pow 256 (4 - bytes.length) ≤ last then none
    else
      let front := bytes.foldl (fun n b => 256 * n + b) 0
      some (.ofNumber (front * Nat.pow 256 (4 - bytes.length) + last))

/-- Reads a name as an address of four bytes. -/
def readV4 (cs : List Char) : Option V4 := ((labels cs).mapM labelNumber?).bind addressOf?

/-- Reads an address between brackets. -/
def readV6 (cs : List Char) : Option Host :=
  match cs.reverse with
  | ']' :: inner =>
    match V6.read inner.reverse with
    | some (address, []) => some (.v6 address)
    | _ => none
  | _ => none

/-- Reads the host of a special scheme. -/
def readSpecial (cs : List Char) : Option Host :=
  match cs with
  | '[' :: rest => readV6 rest
  | _ => do
    let decoded ← String.fromUTF8? (percentDecode cs).toByteArray
    let name ← Idna.toAscii? decoded.toList
    if name.isEmpty ∨ name.any isForbiddenInName then none
    else if endsInNumber name then (readV4 name).map .v4
    else some (.name name)

/-- Reads the host of any other scheme; it may be empty. -/
def readOther (cs : List Char) : Option Host :=
  match cs with
  | '[' :: rest => readV6 rest
  | _ =>
    if cs.any isForbidden then none else some (.name (percentEncode encodedAlways cs))

end Host

end Shortlist.Url
