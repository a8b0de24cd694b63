import Shortlist.Text.Blank
import Shortlist.Url.Basic

/-!
# Reading URLs

An absolute URL is read part by part. Tabs and line ends are ignored wherever they stand, and so are
controls and spaces at both ends. A *special* scheme takes a backslash for a slash; all of these but
the one of files always have a host, and drop their own port. In a path `.` and `..` are resolved,
also where a point is written as `%2e`; a segment that looks like the letter of a drive is never
left. A URL that shows neither a host nor a slash keeps its path undivided.
-/

namespace Shortlist.Url

open Shortlist.Text (isLetter isLetterOrDigit isDigit lowerChar numberOf)

/-! ## Schemes -/

/-- The kinds of schemes. -/
inductive SchemeKind where
  /-- A special scheme of a protocol, with its port. -/
  | web (port : Nat)
  | file
  | other
  deriving DecidableEq

namespace SchemeKind

/-- The special schemes of protocols, with their ports. -/
def webPorts : List (String × Nat) :=
  [("http", 80), ("https", 443), ("ws", 80), ("wss", 443), ("ftp", 21)]

/-- The kind of a scheme. -/
def ofScheme (scheme : List Char) : SchemeKind :=
  if scheme = "file".toList then file
  else match webPorts.lookup (String.ofList scheme) with
    | some port => web port
    | none => other

/-- Whether a scheme is special. -/
def isSpecial : SchemeKind → Bool
  | other => false
  | _ => true

/-- The port of a scheme. -/
def port? : SchemeKind → Option Nat
  | web port => some port
  | _ => none

/-- A slash, or with a special scheme a backslash. -/
def isSlash (k : SchemeKind) (c : Char) : Bool := c == '/' || (k.isSpecial && c == '\\')

end SchemeKind

/-- A text without the characters that are ignored. -/
def stripped (cs : List Char) : List Char :=
  let isEdge (c : Char) : Bool := c.toNat ≤ 0x20
  let inner := ((cs.dropWhile isEdge).reverse.dropWhile isEdge).reverse
  inner.filter fun c => c != '\t' && c != '\n' && c != '\r'

/-- Reads the scheme and its colon; what follows them. -/
def readScheme (cs : List Char) : Option (List Char × List Char) :=
  let (scheme, rest) := cs.span fun c => isLetterOrDigit c || c ∈ ['+', '-', '.']
  match scheme, rest with
  | first :: _, ':' :: rest => if isLetter first then some (scheme.map lowerChar, rest) else none
  | _, _ => none

/-! ## Authorities -/

/-- Splits an authority at its last `@` into the credentials and the rest. -/
def splitCredentials (authority : List Char) : Option (List Char) × List Char :=
  match authority.reverse.span (· != '@') with
  | (rest, '@' :: before) => (some before.reverse, rest.reverse)
  | (rest, _) => (none, rest.reverse)

/-- Reads credentials: a user, and a password behind the first colon. Without either of them there
are none. -/
def readCredentials (cs : List Char) : Option Credentials :=
  let (user, rest) := cs.span (· != ':')
  let password := rest.drop 1
  if user.isEmpty && password.isEmpty then none
  else some {
    user := percentEncode encodedInCredentials user
    password? :=
      if password.isEmpty then none else some (percentEncode encodedInCredentials password) }

/-- Splits a host from the colon and port behind it; colons in brackets do not count. -/
def splitPort (inside : Bool) : List Char → List Char × List Char
  | [] => ([], [])
  | c :: cs =>
    if c = ':' ∧ !inside then ([], c :: cs)
    else
      let inside := if c = '[' then true else if c = ']' then false else inside
      let (host, rest) := splitPort inside cs
      (c :: host, rest)

/-- Reads what follows a host: nothing, or a colon and digits, which may be missing. A backslash
ends them, and belongs to the path with what follows it. -/
def readPort (default? : Option Nat) : List Char → Option (Option Nat × List Char)
  | [] => some (none, [])
  | _ :: rest =>
    let (ds, path) := rest.span (· != '\\')
    let n := numberOf 10 ds
    if !ds.all isDigit ∨ 65535 < n then none
    else some (if ds.isEmpty ∨ some n = default? then none else some n, path)

/-- An authority. -/
structure Authority where
  credentials? : Option Credentials
  host : Host
  port? : Option Nat
  /-- What follows it without a slash. -/
  path : List Char

/-- Reads an authority. Only a scheme that is not special may leave the host out, together with
credentials and the port; an `@` that stands first needs a host too. -/
def readAuthority (kind : SchemeKind) (cs : List Char) : Option Authority := do
  let (credentials, cs) := splitCredentials cs
  let credentials? := credentials.bind readCredentials
  let (name, rest) := splitPort false cs
  let bare := !kind.isSpecial && rest.isEmpty && credentials?.isNone && credentials != some []
  if name.isEmpty && !bare then none
  let host ← if kind.isSpecial then Host.readSpecial name else Host.readOther name
  let (port?, path) ← readPort kind.port? rest
  return { credentials?, host, port?, path }

/-! ## Paths -/

/-- A segment that stands for its own directory. -/
def isDot (segment : List Char) : Bool :=
  ([".", "%2e"].map String.toList).contains (segment.map lowerChar)

/-- A segment that stands for the directory above. -/
def isDotDot (segment : List Char) : Bool :=
  (["..", "%2e%2e", "%2e.", ".%2e"].map String.toList).contains (segment.map lowerChar)

/-- A segment that looks like the letter of a drive. -/
def isDrive : List Char → Bool
  | [c, mark] => isLetter c && (mark == ':' || mark == '|')
  | _ => false

/-- The segments without the last one, which is kept if it looks like a drive; the last comes
first. -/
def up : List (List Char) → List (List Char)
  | [] => []
  | last :: before => if isDrive last then last :: before else before

/-- The segments of a path with the dots resolved; `done` are the ones before, the last first. A
dot at the end leaves an empty segment behind. -/
def resolve (done : List (List Char)) : List (List Char) → List (List Char)
  | [] => done.reverse
  | s :: rest =>
    if isDotDot s then resolve (if rest.isEmpty then [] :: up done else up done) rest
    else if isDot s then resolve (if rest.isEmpty then [] :: done else done) rest
    else resolve (s :: done) rest

/-- The segments between slashes, encoded. -/
def splitSegments (kind : SchemeKind) (cs : List Char) : List (List Char) :=
  (cs.splitOnP kind.isSlash).map (percentEncode encodedInPath)

/-- Reads a path that is divided by slashes; the first slash has been taken off. -/
def readSegments (kind : SchemeKind) (cs : List Char) : UrlPath :=
  .segments (resolve [] (splitSegments kind cs))

/-! ## Files -/

/-- The first segment of the path of a file: one that looks like a drive is written with a colon,
and one that begins like a drive is divided behind that. -/
def driveFirst : List Char → List (List Char)
  | [c, mark] => if isDrive [c, mark] then [[c, ':']] else [[c, mark]]
  | c :: ':' :: rest => if isLetter c then [[c, ':'], rest] else [c :: ':' :: rest]
  | s => [s]

/-- The segments of a file's path with the dots resolved, and whether a host that the path is on
stays; `done` are the segments before, the last first. A drive at the front is on no host. -/
def resolveFile (stays : Bool) (done : List (List Char)) :
    List (List Char) → Bool × List (List Char)
  | [] => (stays, done.reverse)
  | s :: rest =>
    if isDotDot s then resolveFile stays (if rest.isEmpty then [] :: up done else up done) rest
    else if isDot s then resolveFile stays (if rest.isEmpty then [] :: done else done) rest
    else if done.isEmpty then
      resolveFile (stays && !isDrive s) (driveFirst s).reverse rest
    else resolveFile stays (s :: done) rest

/-- Reads the path of a file on a host; the first slash has been taken off. Empty segments at the
front do not count, and a path without any other has one. -/
def readFilePath (host : Host) (cs : List Char) : Host × List (List Char) :=
  let (stays, segments) := resolveFile true [] (splitSegments .file cs)
  let segments := segments.dropWhile (·.isEmpty)
  (if stays then host else .name [], if segments.isEmpty then [[]] else segments)

/-- Reads what a file's URL names: its host, and its path. The system itself is no host. -/
def readFile (before : List Char) : Option (Host × List (List Char)) :=
  let isSlash := SchemeKind.file.isSlash
  match before with
  | a :: b :: rest =>
    if isSlash a && isSlash b then
      let (name, path) := rest.span (!isSlash ·)
      if isDrive name then some (readFilePath (.name []) rest)
      else do
        let host ← if name.isEmpty then some (.name []) else Host.readSpecial name
        let host := if host = .name "localhost".toList then .name [] else host
        return readFilePath host (path.drop 1)
    else some (readFilePath (.name []) (if isSlash a then b :: rest else before))
  | [a] => some (readFilePath (.name []) (if isSlash a then [] else before))
  | [] => some (readFilePath (.name []) [])

/-! ## Whole URLs -/

/-- Reads the query and the fragment. -/
def readTail (special : Bool) (cs : List Char) : Option (List Char) × Option (List Char) :=
  let (query, fragment) := cs.span (· != '#')
  let query? := match query with
    | '?' :: q => some (percentEncode (encodedInQuery special) q)
    | _ => none
  let fragment? := match fragment with
    | '#' :: f => some (percentEncode encodedInFragment f)
    | _ => none
  (query?, fragment?)

/-- Reads an absolute URL. -/
def parse? (s : String) : Option Url := do
  let (scheme, rest) ← readScheme (stripped s.toList)
  let kind := SchemeKind.ofScheme scheme
  let (before, tail) := rest.span fun c => c != '?' && c != '#'
  let (query?, fragment?) := readTail kind.isSpecial tail
  let plain (host? : Option Host) (path : UrlPath) : Url :=
    { scheme, credentials? := none, host?, port? := none, path, query?, fragment? }
  let located (cs : List Char) : Option Url := do
    let (authority, path) := cs.span (!kind.isSlash ·)
    let a ← readAuthority kind authority
    let path := match a.path ++ path with
      | [] => .segments (if kind.isSpecial then [[]] else [])
      | c :: path => readSegments kind (if kind.isSlash c then path else c :: path)
    return { plain (some a.host) path with credentials? := a.credentials?, port? := a.port? }
  match kind with
  | .web _ => located (before.dropWhile kind.isSlash)
  | .file =>
    let (host, path) ← readFile before
    return plain (some host) (.segments path)
  | .other =>
    match before with
    | '/' :: '/' :: rest => located rest
    | '/' :: path => return plain none (readSegments kind path)
    | path => return plain none (.undivided (percentEncode encodedAlways path))

end Shortlist.Url
