import Mathlib.Data.List.Basic
import Shortlist.Settings.Document

/-!
# Settings one by one

A setting has a name in a section, a type, and a place among all settings (`Setting`). A document
gives it by the entry of that name in the table of that section, and the values that write one of
its type are those of `SettingType.Writes`. Where the sections of a document are tables, the
settings that are read from it are, each on its own, what its entry writes, or its default if there
is none (`ofEntries_eq_some_iff`). A section that is left out is thereby no different from one that
is empty (`Section.read_eq`), since the defaults of both agree.
-/

namespace Shortlist

/-! ## Values of documents -/

namespace Toml

variable {v : Toml}

theorem text?_eq_some_iff {s : String} : v.text? = some s ↔ v = .text s := by
  cases v <;> simp [text?]

theorem count?_eq_some_iff {n : Nat} : v.count? = some n ↔ v = .whole (Int.ofNat n) := by
  unfold count?
  split
  · simp only [Option.some.injEq, whole.injEq, Int.ofNat.injEq]
  · rename_i hv
    simp only [reduceCtorEq, false_iff]
    exact hv n

theorem real?_eq_some_iff {x : Float} :
    v.real? = some x ↔ v = .real x ∨ ∃ n, v = .whole n ∧ x = Float.ofInt n := by
  cases v <;> simp [real?, eq_comm]

theorem bool?_eq_some_iff {b : Bool} : v.bool? = some b ↔ v = .bool b := by
  cases v <;> simp [bool?]

theorem isEmpty_iff : v.isEmpty = true ↔ v = .array [] ∨ v = .table [] := by
  unfold isEmpty
  split <;> simp_all

theorem ofName?_eq_some_iff {s : String} {p : FlagProvider} :
    FlagProvider.ofName? s = some p ↔ s = p.name := by
  unfold FlagProvider.ofName?
  constructor
  · intro h
    have hname := List.find?_some h
    exact (of_decide_eq_true hname).symm
  · rintro rfl
    cases p <;> rfl

/-- A provider is written by its name, or as a table with an empty entry of this name. -/
theorem provider?_eq_some_iff {p : FlagProvider} :
    v.provider? = some p ↔ v = .text p.name ∨
      ∃ nothing, (nothing = .array [] ∨ nothing = .table []) ∧ v = .table [(p.name, nothing)] := by
  simp only [← isEmpty_iff]
  unfold provider?
  split
  · simp only [ofName?_eq_some_iff, text.injEq, reduceCtorEq, and_false, exists_false, or_false]
  · rename_i name inner
    simp only [reduceCtorEq, false_or, table.injEq, List.cons.injEq, Prod.mk.injEq, and_true]
    split
    · rename_i hempty
      rw [ofName?_eq_some_iff]
      constructor
      · rintro rfl
        exact ⟨inner, hempty, rfl, rfl⟩
      · rintro ⟨-, -, hname, -⟩
        exact hname
    · rename_i hempty
      simp only [reduceCtorEq, false_iff]
      rintro ⟨nothing, hnothing, -, rfl⟩
      exact hempty hnothing
  · rename_i hname htable
    simp only [reduceCtorEq, false_iff]
    rintro (rfl | ⟨nothing, -, rfl⟩)
    · exact hname _ rfl
    · exact htable _ _ rfl

/-- Values of flags are written as a table of truth values. -/
theorem flagTable?_eq_some_iff {t : FlagTable} :
    v.flagTable? = some t ↔ ∃ flags : List (String × Bool),
      v = .table (flags.map fun f => (f.1, .bool f.2)) ∧ t = FlagTable.ofList flags := by
  have hflags : ∀ {es : List (String × Toml)} {flags : List (String × Bool)},
      (es.mapM fun (e : String × Toml) => e.2.bool?.map (e.1, ·)) = some flags ↔
        es = flags.map fun f => (f.1, .bool f.2) := by
    intro es
    induction es with
    | nil =>
      intro flags
      cases flags <;> simp
    | cons e es ih =>
      intro flags
      rw [List.mapM_cons]
      simp only [Option.bind_eq_bind, Option.bind_eq_some_iff, Option.map_eq_some_iff,
        bool?_eq_some_iff, ih, Option.pure_def, Option.some.injEq]
      constructor
      · rintro ⟨f, ⟨b, hb, rfl⟩, later, rfl, rfl⟩
        rw [List.map_cons, ← hb]
      · intro h
        cases flags with
        | nil => cases h
        | cons f flags =>
          obtain ⟨rfl, rfl⟩ := List.cons.inj h
          exact ⟨f, ⟨f.2, rfl, rfl⟩, flags, rfl, rfl⟩
  unfold flagTable?
  split
  · simp only [Option.map_eq_some_iff, hflags, table.injEq, @eq_comm _ t]
  · rename_i hv
    simp only [reduceCtorEq, false_iff]
    rintro ⟨flags, rfl, -⟩
    exact hv _ rfl

end Toml

/-! ## Types -/

/-- The type of a setting. -/
inductive SettingType where
  | text
  | count
  | number
  | provider
  | flagValues

namespace SettingType

/-- The values of a type. -/
def Value : SettingType → Type
  | text => String
  | count => Nat
  | number => Float
  | provider => FlagProvider
  | flagValues => FlagTable

/-- The values in a document that write a value of a type. A number may be a whole one; a provider
is written by its name, or as a table with an empty entry of this name. -/
def Writes : (t : SettingType) → Toml → t.Value → Prop
  | text, v, s => v = .text s
  | count, v, n => v = .whole (Int.ofNat n)
  | number, v, x => v = .real x ∨ ∃ n, v = .whole n ∧ x = Float.ofInt n
  | provider, v, p => v = .text p.name ∨ ∃ nothing, (nothing = .array [] ∨ nothing = .table []) ∧
      v = .table [(p.name, nothing)]
  | flagValues, v, t => ∃ flags : List (String × Bool),
      v = .table (flags.map fun f => (f.1, .bool f.2)) ∧ t = FlagTable.ofList flags

/-- Reads a value of a type. -/
def read : (t : SettingType) → Toml → Option t.Value
  | text => Toml.text?
  | count => Toml.count?
  | number => Toml.real?
  | provider => Toml.provider?
  | flagValues => Toml.flagTable?

/-- What is read as a value of a type is what writes one. -/
theorem read_eq_some_iff (t : SettingType) {v : Toml} {x : t.Value} :
    t.read v = some x ↔ t.Writes v x := by
  cases t with
  | text => exact Toml.text?_eq_some_iff
  | count => exact Toml.count?_eq_some_iff
  | number => exact Toml.real?_eq_some_iff
  | provider => exact Toml.provider?_eq_some_iff
  | flagValues => exact Toml.flagTable?_eq_some_iff

end SettingType

/-! ## Settings -/

/-- A single setting. -/
inductive Setting where
  | address
  | serviceName
  | catalogAddress
  | catalogTimeout
  | provider
  | flagService
  | flagTimeout
  | cacheFlag
  | flagValues
  | maxEntries
  | refreshProbability
  | maxResponses
  deriving DecidableEq

namespace Setting

/-- The section that a setting belongs to. -/
def group : Setting → String
  | address | serviceName => "server"
  | catalogAddress | catalogTimeout => "catalog"
  | provider | flagService | flagTimeout | cacheFlag | flagValues => "flags"
  | maxEntries | refreshProbability => "cache"
  | maxResponses => "recommendations"

/-- The name of a setting in its section. -/
def name : Setting → String
  | address | catalogAddress => "address"
  | serviceName => "service_name"
  | catalogTimeout | flagTimeout => "timeout_ms"
  | provider => "provider"
  | flagService => "ofrep_url"
  | cacheFlag => "cache_flag"
  | flagValues => "values"
  | maxEntries => "max_entries"
  | refreshProbability => "refresh_probability"
  | maxResponses => "max_responses"

/-- The type of a setting. -/
def type : Setting → SettingType
  | address | serviceName | catalogAddress | flagService | cacheFlag => .text
  | catalogTimeout | flagTimeout | maxEntries | maxResponses => .count
  | provider => .provider
  | flagValues => .flagValues
  | refreshProbability => .number

/-- The values that a setting can have. -/
abbrev Value (k : Setting) : Type := k.type.Value

/-- The value of a setting among all. -/
def get : (k : Setting) → Settings → k.Value
  | address, s => s.server.address
  | serviceName, s => s.server.serviceName
  | catalogAddress, s => s.catalog.address
  | catalogTimeout, s => s.catalog.timeoutMs
  | provider, s => s.flags.provider
  | flagService, s => s.flags.serviceUrl
  | flagTimeout, s => s.flags.timeoutMs
  | cacheFlag, s => s.flags.cacheFlag
  | flagValues, s => s.flags.values
  | maxEntries, s => s.cache.maxEntries
  | refreshProbability, s => s.cache.refreshProbability
  | maxResponses, s => s.recommendations.maxResponses

/-- The settings with given values. -/
def assemble (x : (k : Setting) → k.Value) : Settings where
  server := { address := x address, serviceName := x serviceName }
  catalog := { address := x catalogAddress, timeoutMs := x catalogTimeout }
  flags := { provider := x provider, serviceUrl := x flagService, timeoutMs := x flagTimeout,
             cacheFlag := x cacheFlag, values := x flagValues }
  cache := { maxEntries := x maxEntries, refreshProbability := x refreshProbability }
  recommendations := { maxResponses := x maxResponses }

theorem get_assemble (x : (k : Setting) → k.Value) (k : Setting) : k.get (assemble x) = x k := by
  cases k <;> rfl

/-- Settings that agree in each are the same: there are no others. -/
theorem ext_get {s s' : Settings} (h : ∀ k : Setting, k.get s = k.get s') : s = s' := by
  have hall : (fun k : Setting => k.get s) = fun k : Setting => k.get s' := funext h
  calc s = assemble fun k => k.get s := rfl
    _ = assemble fun k => k.get s' := by rw [hall]
    _ = s' := rfl

/-- No two settings have the same name in the same section. -/
theorem eq_of_key {j k : Setting} (hgroup : j.group = k.group) (hname : j.name = k.name) :
    j = k := by
  cases j <;> cases k <;> first | rfl | (revert hgroup hname; decide)

end Setting

/-! ## Documents -/

/-- The entries of a section, none if it is missing. -/
def sectionEntries (es : List (String × Toml)) (group : String) : List (String × Toml) :=
  ((es.lookup group).bind Toml.entries?).getD []

/-- Whether every section that settings belong to is a table, if it is there. -/
def KnownSectionsAreTables (es : List (String × Toml)) : Prop :=
  ∀ (k : Setting) v, es.lookup k.group = some v → ∃ inner, v = .table inner

namespace Setting

/-- What a document holds for a setting. -/
def entry? (k : Setting) (es : List (String × Toml)) : Option Toml :=
  (sectionEntries es k.group).lookup k.name

/-- The value that a document gives a setting: its default if it is left out. -/
def valueIn? (k : Setting) (es : List (String × Toml)) : Option k.Value :=
  match k.entry? es with
  | none => some (k.get {})
  | some v => k.type.read v

/-- A document gives a setting what its entry writes, or its default if there is none. -/
theorem valueIn?_eq_some_iff {k : Setting} {es : List (String × Toml)} {x : k.Value} :
    k.valueIn? es = some x ↔ (k.entry? es = none ∧ x = k.get {}) ∨
      ∃ v, k.entry? es = some v ∧ k.type.Writes v x := by
  unfold valueIn?
  cases k.entry? es with
  | none => simp [eq_comm]
  | some v => simp [SettingType.read_eq_some_iff]

end Setting

variable {es : List (String × Toml)}

/-- A section that is left out is read as an empty one, if its defaults are those that an empty one
leaves to its settings. -/
theorem Section.read_eq {α : Type} {group : String} {settings : Section → Option α} {default : α}
    (htable : ∀ v, es.lookup group = some v → ∃ inner, v = .table inner)
    (hdefault : settings (.named []) = some default) :
    Section.read es group settings default = settings (.named (sectionEntries es group)) := by
  unfold Section.read sectionEntries
  cases hlookup : es.lookup group with
  | none => exact hdefault.symm
  | some v =>
    obtain ⟨inner, rfl⟩ := htable v hlookup
    rfl

theorem ServerSettings.ofSection_eq_some_iff {s : Section} {x : ServerSettings} :
    ServerSettings.ofSection s = some x ↔
      s.setting 0 "address" Toml.text? defaultAddress = some x.address ∧
      s.setting 1 "service_name" Toml.text? defaultServiceName = some x.serviceName := by
  cases x
  simp [ServerSettings.ofSection, Option.bind_eq_some_iff]

theorem CatalogSettings.ofSection_eq_some_iff {s : Section} {x : CatalogSettings} :
    CatalogSettings.ofSection s = some x ↔
      s.setting 0 "address" Toml.text? defaultCatalogAddress = some x.address ∧
      s.setting 1 "timeout_ms" Toml.count? defaultCatalogTimeoutMs = some x.timeoutMs := by
  cases x
  simp [CatalogSettings.ofSection, Option.bind_eq_some_iff]

theorem FlagSettings.ofSection_eq_some_iff {s : Section} {x : FlagSettings} :
    FlagSettings.ofSection s = some x ↔
      s.setting 0 "provider" Toml.provider? default = some x.provider ∧
      s.setting 1 "ofrep_url" Toml.text? defaultFlagService = some x.serviceUrl ∧
      s.setting 2 "timeout_ms" Toml.count? defaultFlagTimeoutMs = some x.timeoutMs ∧
      s.setting 3 "cache_flag" Toml.text? defaultCacheFlag = some x.cacheFlag ∧
      s.setting 4 "values" Toml.flagTable? .empty = some x.values := by
  cases x
  simp [FlagSettings.ofSection, Option.bind_eq_some_iff]

theorem CacheConfig.ofSection_eq_some_iff {s : Section} {x : CacheConfig} :
    CacheConfig.ofSection s = some x ↔
      s.setting 0 "max_entries" Toml.count? ({} : CacheConfig).maxEntries = some x.maxEntries ∧
      s.setting 1 "refresh_probability" Toml.real? ({} : CacheConfig).refreshProbability =
        some x.refreshProbability := by
  cases x
  simp [CacheConfig.ofSection, Option.bind_eq_some_iff]

theorem AnswerSettings.ofSection_eq_some_iff {s : Section} {x : AnswerSettings} :
    AnswerSettings.ofSection s = some x ↔
      s.setting 0 "max_responses" Toml.count? defaultMaxResponses = some x.maxResponses := by
  cases x
  simp [AnswerSettings.ofSection, Option.bind_eq_some_iff]

namespace Settings

/-- Where the sections of a document are tables, each is read by its entries, which are none if it
is missing. -/
theorem ofEntries_eq_some_iff_sections (htables : KnownSectionsAreTables es) {s : Settings} :
    ofEntries es = some s ↔
      ServerSettings.ofSection (.named (sectionEntries es "server")) = some s.server ∧
      CatalogSettings.ofSection (.named (sectionEntries es "catalog")) = some s.catalog ∧
      FlagSettings.ofSection (.named (sectionEntries es "flags")) = some s.flags ∧
      CacheConfig.ofSection (.named (sectionEntries es "cache")) = some s.cache ∧
      AnswerSettings.ofSection (.named (sectionEntries es "recommendations")) =
        some s.recommendations := by
  have hserver : Section.read es "server" ServerSettings.ofSection {} = _ :=
    Section.read_eq (htables .address) rfl
  have hcatalog : Section.read es "catalog" CatalogSettings.ofSection {} = _ :=
    Section.read_eq (htables .catalogAddress) rfl
  have hflags : Section.read es "flags" FlagSettings.ofSection {} = _ :=
    Section.read_eq (htables .provider) rfl
  have hcache : Section.read es "cache" CacheConfig.ofSection {} = _ :=
    Section.read_eq (htables .maxEntries) rfl
  have hanswers : Section.read es "recommendations" AnswerSettings.ofSection {} = _ :=
    Section.read_eq (htables .maxResponses) rfl
  unfold ofEntries
  rw [hserver, hcatalog, hflags, hcache, hanswers]
  cases s
  simp [Option.bind_eq_some_iff]

/-- Where the sections of a document are tables, its settings are, each on its own, those that it
gives. -/
theorem ofEntries_eq_some_iff (htables : KnownSectionsAreTables es) {s : Settings} :
    ofEntries es = some s ↔ ∀ k : Setting, k.valueIn? es = some (k.get s) := by
  rw [ofEntries_eq_some_iff_sections htables, ServerSettings.ofSection_eq_some_iff,
    CatalogSettings.ofSection_eq_some_iff, FlagSettings.ofSection_eq_some_iff,
    CacheConfig.ofSection_eq_some_iff, AnswerSettings.ofSection_eq_some_iff]
  constructor
  · rintro ⟨⟨_, _⟩, ⟨_, _⟩, ⟨_, _, _, _, _⟩, ⟨_, _⟩, _⟩ k
    cases k <;> assumption
  · intro h
    exact ⟨⟨h .address, h .serviceName⟩, ⟨h .catalogAddress, h .catalogTimeout⟩,
      ⟨h .provider, h .flagService, h .flagTimeout, h .cacheFlag, h .flagValues⟩,
      ⟨h .maxEntries, h .refreshProbability⟩, h .maxResponses⟩

end Settings

end Shortlist
