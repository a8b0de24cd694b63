import Shortlist.Settings.Basic
import Shortlist.Toml.Value

/-!
# Settings from a document

A document has a section for each group of settings. A section that is missing is the default one,
and a setting that is missing in its section has its default; what the document holds besides is not
looked at. A section may also be an array, which gives its settings by their places, or a moment,
which gives none.

`Settings.ofEntries` reads the entries of a document, each setting on its own; it fails only where
one that is there has another type.
-/

namespace Shortlist

/-- The parts of a section. -/
inductive Section where
  /-- Settings by their names. -/
  | named (entries : List (String × Toml))
  /-- Settings by their places. -/
  | placed (items : List Toml)

namespace Section

/-- The section that a value gives. -/
def ofValue? : Toml → Option Section
  | .table es => some (.named es)
  | .array items => some (.placed items)
  | .moment _ => some (.named [])
  | _ => none

/-- Reads the section of a document with a name, which has its default if it is missing. -/
def read (es : List (String × Toml)) (name : String) (settings : Section → Option α) (default : α) :
    Option α :=
  match es.lookup name with
  | none => some default
  | some v => (ofValue? v).bind settings

/-- The value of a setting, by its place or its name. -/
def get? (s : Section) (place : Nat) (name : String) : Option Toml :=
  match s with
  | named es => es.lookup name
  | placed items => items[place]?

/-- Reads a setting, which has its default if it is missing. -/
def setting (s : Section) (place : Nat) (name : String) (read : Toml → Option α) (default : α) :
    Option α :=
  match s.get? place name with
  | none => some default
  | some v => read v

end Section

namespace Toml

/-- A text. -/
def text? : Toml → Option String
  | text s => some s
  | _ => none

/-- A whole number that is not negative. -/
def count? : Toml → Option Nat
  | whole (.ofNat n) => some n
  | _ => none

/-- A number. -/
def real? : Toml → Option Float
  | real x => some x
  | whole n => some (Float.ofInt n)
  | _ => none

/-- A truth value. -/
def bool? : Toml → Option Bool
  | bool b => some b
  | _ => none

/-- Whether a value is empty, and so may stand behind a name that takes none. -/
def isEmpty : Toml → Bool
  | array [] | table [] => true
  | _ => false

/-- A provider: its name, or a table with one entry, which has its name and holds nothing. -/
def provider? : Toml → Option FlagProvider
  | text s => FlagProvider.ofName? s
  | table [(name, v)] => if v.isEmpty then FlagProvider.ofName? name else none
  | _ => none

/-- Values of flags. -/
def flagTable? : Toml → Option FlagTable
  | table es =>
    (es.mapM fun (e : String × Toml) => e.2.bool?.map (e.1, ·)).map FlagTable.ofList
  | _ => none

end Toml

/-- The settings of a server section. -/
def ServerSettings.ofSection (s : Section) : Option ServerSettings := do
  return {
    address := ← s.setting 0 "address" Toml.text? defaultAddress
    serviceName := ← s.setting 1 "service_name" Toml.text? defaultServiceName }

/-- The settings of a catalog section. -/
def CatalogSettings.ofSection (s : Section) : Option CatalogSettings := do
  return {
    address := ← s.setting 0 "address" Toml.text? defaultCatalogAddress
    timeoutMs := ← s.setting 1 "timeout_ms" Toml.count? defaultCatalogTimeoutMs }

/-- The settings of a flag section. -/
def FlagSettings.ofSection (s : Section) : Option FlagSettings := do
  return {
    provider := ← s.setting 0 "provider" Toml.provider? default
    serviceUrl := ← s.setting 1 "ofrep_url" Toml.text? defaultFlagService
    timeoutMs := ← s.setting 2 "timeout_ms" Toml.count? defaultFlagTimeoutMs
    cacheFlag := ← s.setting 3 "cache_flag" Toml.text? defaultCacheFlag
    values := ← s.setting 4 "values" Toml.flagTable? .empty }

/-- The settings of a cache section. -/
def CacheConfig.ofSection (s : Section) : Option CacheConfig := do
  let d : CacheConfig := {}
  return {
    maxEntries := ← s.setting 0 "max_entries" Toml.count? d.maxEntries
    refreshProbability := ← s.setting 1 "refresh_probability" Toml.real? d.refreshProbability }

/-- The settings of a section on answers. -/
def AnswerSettings.ofSection (s : Section) : Option AnswerSettings := do
  return { maxResponses := ← s.setting 0 "max_responses" Toml.count? defaultMaxResponses }

/-- The settings of a document. -/
def Settings.ofEntries (es : List (String × Toml)) : Option Settings := do
  return {
    server := ← Section.read es "server" ServerSettings.ofSection {}
    catalog := ← Section.read es "catalog" CatalogSettings.ofSection {}
    flags := ← Section.read es "flags" FlagSettings.ofSection {}
    cache := ← Section.read es "cache" CacheConfig.ofSection {}
    recommendations := ← Section.read es "recommendations" AnswerSettings.ofSection {} }

end Shortlist
