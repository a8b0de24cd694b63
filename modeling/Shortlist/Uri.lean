import Shortlist.Text.Blank
import Shortlist.Text.Digits

/-!
# URIs

Which texts are URIs, within `maxLength` bytes: in absolute form a scheme, `://`, an authority that
is not empty, and a path with a query; in origin form a path with a query alone. A fragment is not
looked at. `Uri.read?` is put together from the three rules: `afterScheme?`, `isAuthority` and
`isPath`.
-/

namespace Shortlist

/-- A URI, by its form. -/
inductive Uri where
  /-- With a scheme and an authority. -/
  | absolute (authority : List Char)
  /-- A path that begins with a slash. -/
  | origin
  deriving DecidableEq, Repr

namespace Uri

open Shortlist.Text (byteLength isLetterOrDigit)

/-- The greatest length of a URI, in bytes. -/
def maxLength : Nat := 65534

/-- The greatest length of a scheme. -/
def maxScheme : Nat := 64

/-! ## Scheme -/

/-- The characters of a scheme. -/
def isSchemeChar (c : Char) : Bool := isLetterOrDigit c || c ∈ ['+', '-', '.', '~']

/-- What follows the scheme and its `://`, if the text begins with a scheme. -/
def afterScheme? (cs : List Char) : Option (List Char) :=
  let (scheme, rest) := cs.span isSchemeChar
  match rest with
  | ':' :: '/' :: '/' :: rest => if scheme.length ≤ maxScheme then some rest else none
  | _ => none

/-! ## Authority -/

/-- The characters of an authority, the percent sign apart. -/
def isAuthorityChar (c : Char) : Bool :=
  isLetterOrDigit c ||
    c ∈ ['!', '#', '$', '&', '\'', '(', ')', '*', '+', ',', '-', '.', '/', ':', ';', '=', '?', '@',
      '[', ']', '_', '~']

/-- The characters that end an authority. -/
def endsAuthority (c : Char) : Bool := c == '/' || c == '?' || c == '#'

/-- What is known of the front of an authority. -/
structure Authority where
  /-- Colons since the last `@` or `]`. -/
  colons : Nat := 0
  /-- Whether a bracket was opened. -/
  opened : Bool := false
  /-- Whether it was closed. -/
  closed : Bool := false
  /-- Whether a percent sign stands behind the last `@` or `]`. -/
  percent : Bool := false
  /-- Whether the last character was `@`. -/
  atEnd : Bool := false

/-- The greatest number of colons in one part of an authority. -/
def maxColons : Nat := 8

/-- Takes one more character, if it may stand here. -/
def Authority.next (a : Authority) (c : Char) : Option Authority :=
  let a := { a with atEnd := false }
  if c = ':' then
    if maxColons ≤ a.colons then none else some { a with colons := a.colons + 1 }
  else if c = '[' then
    if a.percent || a.opened then none else some { a with opened := true }
  else if c = ']' then
    if !a.opened || a.closed then none
    else some { a with closed := true, colons := 0, percent := false }
  else if c = '@' then some { a with colons := 0, percent := false, atEnd := true }
  else if c = '%' then some { a with percent := true }
  else if isAuthorityChar c then some a
  else none

/-- Whether the authority may end here: brackets closed, at most one colon for a port, no percent
sign in the host, and something behind an `@`. -/
def Authority.isDone (a : Authority) : Bool :=
  a.opened == a.closed && a.colons ≤ 1 && !a.atEnd && !a.percent

/-- Whether a text is an authority; it must not be empty. -/
def isAuthority (cs : List Char) : Bool :=
  !cs.isEmpty && (cs.foldlM Authority.next {}).any (·.isDone)

/-! ## Path and query -/

/-- The characters of a path. -/
def isPathChar (c : Char) : Bool :=
  let n := c.toNat
  n == 0x21 || n == 0x22 || (0x24 ≤ n && n ≤ 0x3B) || n == 0x3D || (0x40 ≤ n && n ≤ 0x5F) ||
    (0x61 ≤ n && n != 0x7F)

/-- The characters of a query. -/
def isQueryChar (c : Char) : Bool :=
  let n := c.toNat
  n == 0x21 || (0x24 ≤ n && n ≤ 0x3B) || n == 0x3D || (0x3F ≤ n && n != 0x7F)

/-- Whether a text is a path with a query; what follows `#` may be anything. -/
def isPath (cs : List Char) : Bool :=
  let cs := cs.takeWhile (· != '#')
  let (path, query) := cs.span (· != '?')
  path.all isPathChar && (query.drop 1).all isQueryChar

/-- Reads a URI. -/
def read? (s : String) : Option Uri :=
  let cs := s.toList
  if maxLength < byteLength cs then none
  else if cs.head? = some '/' then if isPath cs then some origin else none
  else match afterScheme? cs with
    | none => none
    | some rest =>
      let (authority, path) := rest.span (!endsAuthority ·)
      if isAuthority authority && isPath path then some (absolute authority) else none

/-- Whether a text is a URI. -/
def isValid (s : String) : Bool := (read? s).isSome

/-- The host of an authority: what stands between the last `@` and a colon, or the brackets with
what they hold. -/
def hostOf (authority : List Char) : List Char :=
  let place := (authority.reverse.takeWhile (· != '@')).reverse
  match place with
  | '[' :: _ => place.takeWhile (· != ']') ++ [']']
  | _ => place.takeWhile (· != ':')

end Uri

end Shortlist
