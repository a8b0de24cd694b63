import Shortlist.Url.Host

/-!
# URLs

An absolute URL in its parts, each part already in the form in which it is written. Credentials that
can be read go into a header of the request and are taken off the URL before.
-/

namespace Shortlist

/-- The path of a URL. -/
inductive UrlPath where
  /-- The segments after each slash. -/
  | segments (parts : List (List Char))
  /-- A path that is not divided, of a URL without a host. -/
  | undivided (text : List Char)
  deriving DecidableEq

namespace UrlPath

/-- The text of a path. -/
def chars : UrlPath → List Char
  | segments parts => parts.flatMap ('/' :: ·)
  | undivided text => text

end UrlPath

/-- The credentials of a URL, of which one at least is there. -/
structure Url.Credentials where
  user : List Char
  password? : Option (List Char)
  deriving DecidableEq

/-- An absolute URL. -/
structure Url where
  scheme : List Char
  credentials? : Option Url.Credentials
  host? : Option Url.Host
  /-- The port, if it is not the one of the scheme. -/
  port? : Option Nat
  path : UrlPath
  query? : Option (List Char)
  fragment? : Option (List Char)

namespace Url

namespace Credentials

/-- The credentials as they stand in front of a host. -/
def text (c : Credentials) : String :=
  String.ofList (c.user ++
    (match c.password? with
      | some password => ':' :: password
      | none => []) ++ ['@'])

/-- Whether a request can carry the credentials in its header: the user can be read, and if there is
none, the password. -/
def areReadable (c : Credentials) : Bool :=
  decodes c.user && (!c.user.isEmpty || c.password?.any decodes)

end Credentials

/-- A part with a mark in front of it, and nothing if there is no such part. -/
def marked (mark : Char) : Option (List Char) → String
  | none => ""
  | some cs => String.ofList (mark :: cs)

/-- The path and the query, as a request names them. -/
def target (u : Url) : String := String.ofList u.path.chars ++ marked '?' u.query?

/-- The text of a URL. -/
def text (u : Url) : String :=
  let authority := match u.host? with
    | none =>
      match u.path with
      | .segments ([] :: _ :: _) => "/."
      | _ => ""
    | some host =>
      let port := match u.port? with
        | none => ""
        | some n => ":" ++ toString n
      "//" ++ (u.credentials?.map (·.text)).getD "" ++ host.text ++ port
  String.ofList u.scheme ++ ":" ++ authority ++ u.target ++ marked '#' u.fragment?

/-- The URL that a request is sent to: readable credentials are taken off. -/
def withoutReadable (u : Url) : Url :=
  if u.credentials?.all (·.areReadable) then { u with credentials? := none } else u

/-- Whether the URL names a host. -/
def hasHost (u : Url) : Bool := u.host?.any (· != Host.name [])

/-- Whether requests can be sent to it: a host, over HTTP. -/
def isWeb (u : Url) : Bool := u.hasHost && (u.scheme = "http".toList || u.scheme = "https".toList)

end Url

end Shortlist
