import Shortlist.Text.Digits

/-!
# Percent encoding

The bytes of a character that may not stand for itself in a part of a URL are each written as `%`
and two hexadecimal digits. Each part has its own set of such characters; all the sets hold the
controls and everything beyond ASCII.
-/

namespace Shortlist.Url

open Shortlist.Text (hexValue?)

/-- The characters encoded everywhere: controls, and all beyond ASCII. -/
def encodedAlways (c : Char) : Bool := c.toNat < 0x20 || 0x7E < c.toNat

/-- The characters encoded in a fragment. -/
def encodedInFragment (c : Char) : Bool :=
  encodedAlways c || c ∈ [' ', '"', '<', '>', '\x60']

/-- The characters encoded in a query; a special scheme encodes the single quote too. -/
def encodedInQuery (special : Bool) (c : Char) : Bool :=
  encodedAlways c || c ∈ [' ', '"', '#', '<', '>'] || (special && c == '\'')

/-- The characters encoded in a path. -/
def encodedInPath (c : Char) : Bool :=
  encodedInFragment c || c ∈ ['#', '?', '\x7b', '\x7d']

/-- The characters encoded in credentials. -/
def encodedInCredentials (c : Char) : Bool :=
  encodedInPath c || c ∈ ['/', ':', ';', '=', '@', '[', '\\', ']', '^', '|']

/-- A digit of an encoded byte. -/
def upperHexDigit (n : Nat) : Char := Char.ofNat (if n < 10 then 0x30 + n else 0x37 + n)

/-- One byte, encoded. -/
def encodeByte (b : UInt8) : List Char :=
  ['%', upperHexDigit (b.toNat / 16), upperHexDigit (b.toNat % 16)]

/-- A text with the characters of a set encoded. -/
def percentEncode (encoded : Char → Bool) (cs : List Char) : List Char :=
  cs.flatMap fun c =>
    if encoded c then (String.utf8EncodeChar c).flatMap encodeByte else [c]

/-- The bytes of a text, those that it shows encoded and those of its other characters. -/
def percentDecode : List Char → List UInt8
  | [] => []
  | '%' :: a :: b :: rest =>
    match hexValue? a, hexValue? b with
    | some high, some low => UInt8.ofNat (16 * high + low) :: percentDecode rest
    | _, _ => String.utf8EncodeChar '%' ++ percentDecode (a :: b :: rest)
  | c :: rest => String.utf8EncodeChar c ++ percentDecode rest

/-- Whether a text without its encoding is a text again. -/
def decodes (cs : List Char) : Bool := (String.fromUTF8? (percentDecode cs).toByteArray).isSome

end Shortlist.Url
