import Mathlib
import Shortlist.Proofs.Settings.Changes
import Shortlist.Settings.File

/-!
# Loading settings one by one

A file whose document has tables for its sections, and values of their types for the settings that
it names, is loaded. Each setting then is what the document writes, or its default, whatever else
the document holds and in whatever order; and one more setting in a document is one more setting
that is loaded (`load_each`).
-/

namespace Shortlist

/-- A file holds the text of a document. -/
def SettingsFile.Holds (f : SettingsFile) (es : List (String × Toml)) : Prop :=
  ∃ text : String, f.content = .bytes text.toUTF8 ∧ Toml.read text = some es

variable {f : SettingsFile} {es es' : List (String × Toml)} {named? : Option SettingsFile}
  {others : List SettingsFile} {s : Settings}

/-- The document of a file has different names in each of its tables. -/
theorem SettingsFile.Holds.distinct (h : f.Holds es) : (Toml.table es).Distinct := by
  obtain ⟨text, -, hread⟩ := h
  exact Toml.distinct_of_read hread

namespace Settings

/-- The settings of a document are loaded from a file that holds it. -/
theorem load_of_holds (hfile : chooseFile named? others = some f) (hholds : f.Holds es)
    (hs : ofEntries es = some s) : load named? others = .ok s := by
  obtain ⟨text, hcontent, hread⟩ := hholds
  have hutf8 : String.fromUTF8? text.toUTF8 = some text := dif_pos text.isValidUTF8
  have hf : f.read = .ok s := by
    unfold SettingsFile.read
    rw [hcontent]
    simp only [hutf8, hread, Option.bind_some, hs]
  unfold load
  rw [hfile]
  simp only [hf]
  rfl

/-- A document with settings of their types has settings: those that it writes. -/
theorem exists_ofEntries (htables : KnownSectionsAreTables es)
    (htypes : ∀ (k : Setting) v, k.entry? es = some v → ∃ x, k.type.Writes v x) :
    ∃ s, ofEntries es = some s := by
  have hvalues : ∀ k : Setting, ∃ x, k.valueIn? es = some x := by
    intro k
    cases hentry : k.entry? es with
    | none => exact ⟨k.get {}, Setting.valueIn?_eq_some_iff.mpr (Or.inl ⟨hentry, rfl⟩)⟩
    | some v =>
      obtain ⟨x, hx⟩ := htypes k v hentry
      exact ⟨x, Setting.valueIn?_eq_some_iff.mpr (Or.inr ⟨v, hentry, hx⟩)⟩
  choose x hx using hvalues
  refine ⟨Setting.assemble x, (ofEntries_eq_some_iff htables).mpr fun k => ?_⟩
  rw [hx k, Setting.get_assemble]

/-- One more setting in a document is one more setting that it has. -/
theorem exists_ofEntries_of_adds (htables : KnownSectionsAreTables es)
    (hes' : (Toml.table es').Distinct) (hs : ofEntries es = some s) {k : Setting} {v : Toml}
    {x : k.Value} (hadds : k.Adds v es es') (hx : k.type.Writes v x) :
    ∃ s', ofEntries es' = some s' ∧ k.get s' = x ∧ ∀ j : Setting, j ≠ k → j.get s' = j.get s := by
  have hvalue : k.valueIn? es' = some x :=
    Setting.valueIn?_eq_some_iff.mpr (Or.inr ⟨v, hadds.entry?_self hes', hx⟩)
  have hothers : ∀ j : Setting, j ≠ k → j.valueIn? es' = some (j.get s) := by
    intro j hj
    have hold := (ofEntries_eq_some_iff htables).mp hs j
    unfold Setting.valueIn? at hold ⊢
    rwa [hadds.entry?_of_ne hes' hj]
  have htables' := hadds.knownSectionsAreTables hes' htables
  have htypes : ∀ (j : Setting) w, j.entry? es' = some w → ∃ y, j.type.Writes w y := by
    intro j w hw
    by_cases hj : j = k
    · subst hj
      rw [hadds.entry?_self hes'] at hw
      exact ⟨x, Option.some.inj hw ▸ hx⟩
    · rcases Setting.valueIn?_eq_some_iff.mp (hothers j hj) with ⟨hnone, -⟩ | ⟨u, hu, hwrites⟩
      · rw [hnone] at hw
        cases hw
      · obtain rfl := Option.some.inj (hu.symm.trans hw)
        exact ⟨_, hwrites⟩
  obtain ⟨s', hs'⟩ := exists_ofEntries htables' htypes
  have heach := (ofEntries_eq_some_iff htables').mp hs'
  refine ⟨s', hs', ?_, fun j hj => ?_⟩
  · exact Option.some.inj ((heach k).symm.trans hvalue)
  · exact Option.some.inj ((heach j).symm.trans (hothers j hj))

/-- A file is loaded if the sections of its document are tables and its settings have their types.
Each setting is the one value that its entry writes, or its default if there is none: if there is
none at all, all are the defaults. Another document that is alike but for the order of entries, or
that is so once what is no setting is left out of both, is loaded as the same settings; and one with
one more setting as settings that differ in this one. -/
theorem load_each (hfile : chooseFile named? others = some f) (hholds : f.Holds es)
    (htables : KnownSectionsAreTables es)
    (htypes : ∀ (k : Setting) v, k.entry? es = some v → ∃ x, k.type.Writes v x) :
    ∃ s, load named? others = .ok s ∧
      (∀ k : Setting, k.entry? es = none → k.get s = k.get {}) ∧
      (∀ (k : Setting) v, k.entry? es = some v → ∀ x, k.type.Writes v x ↔ x = k.get s) ∧
      ((∀ k : Setting, k.entry? es = none) → s = {}) ∧
      ∀ named?' others' f' es', chooseFile named?' others' = some f' → f'.Holds es' →
        (Toml.Reordered (.table es) (.table es') → load named?' others' = .ok s) ∧
        (Toml.Reordered (.table (knownEntries es)) (.table (knownEntries es')) →
          load named?' others' = .ok s) ∧
        ∀ (k : Setting) v x, k.Adds v es es' → k.type.Writes v x →
          ∃ s', load named?' others' = .ok s' ∧ k.get s' = x ∧
            ∀ j : Setting, j ≠ k → j.get s' = j.get s := by
  obtain ⟨s, hs⟩ := exists_ofEntries htables htypes
  have heach := (ofEntries_eq_some_iff htables).mp hs
  have hdefault : ∀ k : Setting, k.entry? es = none → k.get s = k.get {} := by
    intro k hnone
    rcases Setting.valueIn?_eq_some_iff.mp (heach k) with ⟨-, hget⟩ | ⟨v, hv, -⟩
    · exact hget
    · rw [hnone] at hv
      cases hv
  refine ⟨s, load_of_holds hfile hholds hs, hdefault, ?_, ?_, ?_⟩
  · intro k v hv x
    have hread : k.type.read v = some (k.get s) := by
      have hk := heach k
      unfold Setting.valueIn? at hk
      rwa [hv] at hk
    rw [← SettingType.read_eq_some_iff, hread, Option.some.injEq, eq_comm]
  · intro hnone
    exact Setting.ext_get fun k => hdefault k (hnone k)
  · intro named?' others' f' es' hfile' hholds'
    have hsame : Toml.Reordered (.table (knownEntries es)) (.table (knownEntries es')) →
        load named?' others' = .ok s := fun hreordered =>
      load_of_holds hfile' hholds' (ofEntries_of_reordered htables hholds.distinct hreordered hs)
    refine ⟨fun hreordered => hsame (knownEntries_reordered hreordered), hsame,
      fun k v x hadds hx => ?_⟩
    · obtain ⟨s', hs', hk, hj⟩ := exists_ofEntries_of_adds htables hholds'.distinct hs hadds hx
      exact ⟨s', load_of_holds hfile' hholds' hs', hk, hj⟩

/-- The same flags under a header as an inline table and by dotted keys, these in another order and
beside an entry that is no setting; and with one more setting in a section of its own. -/
theorem load_each_of_three_forms :
    let headers := "[flags]\nvalues=\x7ba=true,b=false\x7d\n"
    let keys := "x=1\nflags.values.b=false\nflags.values.a=true\n"
    let more := "[flags]\nvalues=\x7ba=true,b=false\x7d\n[server]\naddress='h'\n"
    ∃ s s', load (some ⟨"headers", .bytes headers.toUTF8⟩) [] = .ok s ∧
      load none [⟨"none", .missing⟩, ⟨"keys", .bytes keys.toUTF8⟩] = .ok s ∧
      s.flags.values = FlagTable.ofList [("a", true), ("b", false)] ∧
      s.flags.cacheFlag = defaultCacheFlag ∧ s.server.address = defaultAddress ∧
      load (some ⟨"more", .bytes more.toUTF8⟩) [] = .ok s' ∧ s'.server.address = "h" ∧
      s'.flags.values = s.flags.values := by
  intro headers keys more
  let a : String × Toml := ("a", .bool true)
  let b : String × Toml := ("b", .bool false)
  let es : List (String × Toml) := [("flags", .table [("values", .table [a, b])])]
  have hheaders : SettingsFile.Holds ⟨"headers", .bytes headers.toUTF8⟩ es :=
    ⟨headers, rfl, by cbv⟩
  have hkeys : SettingsFile.Holds ⟨"keys", .bytes keys.toUTF8⟩
      [("x", .whole 1), ("flags", .table [("values", .table [b, a])])] := ⟨keys, rfl, by cbv⟩
  have hmore : SettingsFile.Holds ⟨"more", .bytes more.toUTF8⟩
      (es ++ ("server", .table [("address", .text "h")]) :: []) := ⟨more, rfl, by cbv⟩
  have htables : KnownSectionsAreTables es := by
    intro k v hlookup
    have hmem : (k.group, v) ∈ es := (Toml.lookup_eq_some_iff_mem (by decide)).mp hlookup
    obtain ⟨-, rfl⟩ := Prod.mk.inj (List.mem_singleton.mp hmem)
    exact ⟨_, rfl⟩
  have hvalues : Setting.flagValues.entry? es = some (.table [a, b]) := rfl
  have hnone : ∀ k : Setting, k ≠ .flagValues → k.entry? es = none := by
    intro k hk
    cases k <;> first | rfl | contradiction
  have htypes : ∀ (k : Setting) v, k.entry? es = some v → ∃ x, k.type.Writes v x := by
    intro k v hentry
    by_cases hk : k = .flagValues
    · subst hk
      obtain rfl := Option.some.inj (hvalues.symm.trans hentry)
      exact ⟨_, [("a", true), ("b", false)], rfl, rfl⟩
    · rw [hnone k hk] at hentry
      cases hentry
  obtain ⟨s, hs, hdefault, hwrites, -, hchange⟩ :=
    load_each (show chooseFile (some _) [] = some _ from rfl) hheaders htables htypes
  have hflags := ((hwrites .flagValues _ hvalues _).mp ⟨[("a", true), ("b", false)], rfl, rfl⟩).symm
  obtain ⟨-, hreordered, -⟩ :=
    hchange none [⟨"none", .missing⟩, ⟨"keys", .bytes keys.toUTF8⟩] _ _ rfl hkeys
  obtain ⟨-, -, hadds⟩ := hchange (some ⟨"more", .bytes more.toUTF8⟩) [] _ _ rfl hmore
  obtain ⟨s', hs', haddress, hsame⟩ := hadds .address (.text "h") "h" (.group es []) rfl
  refine ⟨s, s', hs, hreordered ?_, hflags, hdefault .cacheFlag rfl, hdefault .address rfl, hs',
    haddress, hsame .flagValues (by decide)⟩
  -- The flags are exchanged in their table, and the other entry is left out.
  have halike : Toml.AlikeEntries ("values", .table [a, b]) ("values", .table [b, a]) :=
    ⟨rfl, .of_perm (.swap b a [])⟩
  have hsection : Toml.AlikeEntries ("flags", .table [("values", .table [a, b])])
      ("flags", .table [("values", .table [b, a])]) :=
    ⟨rfl, .of_each (.cons halike .nil) (.refl _)⟩
  exact .of_each (.cons hsection .nil) (.refl _)

end Settings

end Shortlist
