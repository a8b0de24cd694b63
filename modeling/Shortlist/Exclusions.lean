import Shortlist.Fault
import Shortlist.Product
import Shortlist.Text.Blank
import Shortlist.Text.Quoted

/-!
# Exclusion lists

A caller names the products already seen as a list of texts, each holding one id or several joined
by commas. The segments between commas are trimmed and the empty ones skipped; each of the others
is a product id, unless it is too long or holds a control character. The first segment with such an
offence, in the order of the request, decides the answer.

`named` is the list of segments that count, and `parse` reads them one after the other.
-/

namespace Shortlist.Exclusions

open Shortlist.Text

/-- The greatest length of an excluded id, in bytes. -/
def maxLength : Nat := 256

/-- What makes a segment unacceptable. -/
inductive Offence where
  /-- The segment has more than `maxLength` bytes. -/
  | tooLong
  /-- The segment holds a control character. -/
  | control (id : String)
  deriving DecidableEq, Repr

/-- The text of an offence. -/
def Offence.message : Offence → String
  | .tooLong => "product id exceeds " ++ toString maxLength ++ " bytes"
  | .control id => "product id " ++ quote id ++ " contains control characters"

/-- The texts between the commas of a raw element, each without its outer blanks. -/
def segments (raw : String) : List (List Char) := (raw.toList.splitOn ',').map trim

/-- The segments of a request that name a product: all but the empty ones, in order. -/
def named (raws : List String) : List (List Char) :=
  (raws.flatMap segments).filter fun s => !s.isEmpty

/-- The offence of a segment, if it has one; its length is looked at first. -/
def offence? (segment : List Char) : Option Offence :=
  if maxLength < byteLength segment then some .tooLong
  else if segment.any isControl then some (.control (String.ofList segment))
  else none

/-- Adds a segment to the ids read so far. -/
def add (ids : ProductSet) (segment : List Char) : Except Offence ProductSet :=
  match offence? segment with
  | some o => .error o
  | none => .ok (ids.insert ⟨String.ofList segment⟩)

/-- The ids of a request, or its first offence. -/
def read (raws : List String) : Except Offence ProductSet := (named raws).foldlM add ∅

/-- The ids of a request; an offence is reported as malformed input. -/
def parse (raws : List String) : Except Fault ProductSet :=
  (read raws).mapError fun o => .malformedInput o.message

end Shortlist.Exclusions
