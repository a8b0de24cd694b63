import Shortlist.Proofs.Settings.Setting
import Shortlist.Proofs.Toml.Order

/-!
# Changes of a document

The settings of a document do not change with the order of its entries (`valueIn?_of_reordered`),
nor with entries that are no settings, which `knownEntries` leaves out (`entry?_knownEntries`).
A setting that is added to a document, to its section or with it, is found there, and no other is
found differently (`Setting.Adds.entry?_self`, `Setting.Adds.entry?_of_ne`).
-/

namespace Shortlist

variable {es es' : List (String × Toml)}

/-! ## The order of entries -/

/-- The order of flags with different names does not matter. -/
theorem FlagTable.ofList_of_perm {flags flags' : List (String × Bool)}
    (hnames : (flags.map (·.1)).Nodup) (h : flags.Perm flags') :
    FlagTable.ofList flags = FlagTable.ofList flags' := by
  unfold FlagTable.ofList
  rw [FlagTable.mk.injEq]
  refine h.foldl_eq' (fun f hf g hg values => ?_) ∅
  by_cases hname : f.1 = g.1
  · rw [List.inj_on_of_nodup_map hnames hf hg hname]
  · -- Neither of two insertions under different names touches what the other inserts.
    refine Std.ExtTreeMap.ext_getElem? fun name => ?_
    simp only [Std.ExtTreeMap.getElem?_insert, Std.LawfulEqCmp.compare_eq_iff_eq]
    split_ifs with hg hf
    · exact absurd (hf.trans hg.symm) hname
    all_goals rfl

/-- A table of truth values stays one if it is reordered. -/
theorem exists_flags_of_reordered {flags : List (String × Bool)} {v : Toml}
    (h : Toml.Reordered (.table (flags.map fun f => (f.1, .bool f.2))) v) :
    ∃ flags' : List (String × Bool), v = .table (flags'.map fun f => (f.1, .bool f.2)) ∧
      flags.Perm flags' := by
  obtain ⟨es, rfl⟩ := h.exists_table
  obtain ⟨mid, heach, horder⟩ := h.exists_each
  -- No value is changed, since a truth value is alike to itself alone.
  have hmid : mid = flags.map fun f => (f.1, .bool f.2) := by
    rw [List.forall₂_map_left_iff] at heach
    clear horder h
    induction heach with
    | nil => rfl
    | @cons f e flags mid halike _ ih =>
      obtain ⟨name, w⟩ := e
      obtain ⟨rfl, hvalue⟩ := halike
      cases hvalue with
      | refl => rw [List.map_cons, ih]
  subst hmid
  have hmoved : Relation.Comp (fun es flags => es = List.map (fun f => (f.1, Toml.bool f.2)) flags)
      List.Perm es flags := by
    rw [List.eq_map_comp_perm]
    exact horder.symm
  obtain ⟨flags', rfl, hperm⟩ := hmoved
  exact ⟨flags', rfl, hperm.symm⟩

/-- What writes a value of a type still writes it if it is reordered. -/
theorem SettingType.Writes.of_reordered {t : SettingType} {v v' : Toml} {x : t.Value}
    (h : t.Writes v x) (hv : v.Distinct) (hreordered : v.Reordered v') : t.Writes v' x := by
  cases t with
  | text =>
    obtain rfl : v = .text x := h
    cases hreordered
    rfl
  | count =>
    obtain rfl : v = .whole (Int.ofNat x) := h
    cases hreordered
    rfl
  | number =>
    rcases h with rfl | ⟨n, rfl, hx⟩
    · cases hreordered
      exact Or.inl rfl
    · cases hreordered
      exact Or.inr ⟨n, rfl, hx⟩
  | provider =>
    rcases h with rfl | ⟨nothing, hnothing, rfl⟩
    · cases hreordered
      exact Or.inl rfl
    · obtain ⟨nothing', rfl, hinner⟩ := hreordered.exists_singleton
      refine Or.inr ⟨nothing', ?_, rfl⟩
      rcases hnothing with rfl | rfl
      · cases hinner with
        | refl => exact Or.inl rfl
        | array each =>
          cases each
          exact Or.inl rfl
      · exact Or.inr hinner.eq_of_nil
  | flagValues =>
    obtain ⟨flags, rfl, rfl⟩ := h
    obtain ⟨flags', rfl, hperm⟩ := exists_flags_of_reordered hreordered
    refine ⟨flags', rfl, FlagTable.ofList_of_perm ?_ hperm⟩
    cases hv with
    | table names each => simpa only [List.map_map, Function.comp_def] using names

theorem KnownSectionsAreTables.of_reordered (h : KnownSectionsAreTables es)
    (hes : (Toml.table es).Distinct) (hreordered : Toml.Reordered (.table es) (.table es')) :
    KnownSectionsAreTables es' := by
  intro k v' hlookup'
  cases hes with
  | table names _ =>
    have hrel := hreordered.lookup names k.group
    rw [hlookup'] at hrel
    cases hlookup : es.lookup k.group with
    | none =>
      rw [hlookup] at hrel
      cases hrel
    | some v =>
      rw [hlookup] at hrel
      obtain ⟨inner, rfl⟩ := h k v hlookup
      cases hrel with
      | some hv => exact hv.exists_table

/-- The entries of a section name themselves differently if those of the document do. -/
theorem distinct_sectionEntries (hes : (Toml.table es).Distinct) (group : String) :
    (Toml.table (sectionEntries es group)).Distinct := by
  have hempty : (Toml.table []).Distinct := .table List.nodup_nil (by simp)
  unfold sectionEntries
  cases hlookup : es.lookup group with
  | none => exact hempty
  | some v =>
    cases hes with
    | table names each =>
      have hv : v.Distinct := each _ ((Toml.lookup_eq_some_iff_mem names).mp hlookup)
      cases hv with
      | table names each => exact .table names each
      | _ => exact hempty

/-- Documents alike but for the order of entries have sections that are so. -/
theorem sectionEntries_reordered (h : KnownSectionsAreTables es) (hes : (Toml.table es).Distinct)
    (hreordered : Toml.Reordered (.table es) (.table es')) (k : Setting) :
    Toml.Reordered (.table (sectionEntries es k.group)) (.table (sectionEntries es' k.group)) := by
  unfold sectionEntries
  cases hes with
  | table names _ =>
    have hrel := hreordered.lookup names k.group
    cases hlookup : es.lookup k.group with
    | none =>
      rw [hlookup] at hrel
      generalize es'.lookup k.group = found at hrel
      cases hrel
      exact .refl _
    | some v =>
      obtain ⟨inner, rfl⟩ := h k v hlookup
      rw [hlookup] at hrel
      generalize es'.lookup k.group = found at hrel
      cases hrel with
      | some hv =>
        obtain ⟨inner', rfl⟩ := hv.exists_table
        exact hv

/-- A setting has the same value in a document alike but for the order of entries. -/
theorem Setting.valueIn?_of_reordered (h : KnownSectionsAreTables es)
    (hes : (Toml.table es).Distinct) (hreordered : Toml.Reordered (.table es) (.table es'))
    {k : Setting} {x : k.Value} (hx : k.valueIn? es = some x) : k.valueIn? es' = some x := by
  have hsection := distinct_sectionEntries hes k.group
  cases hsection with
  | table names each =>
    have hrel : Option.Rel Toml.Reordered (k.entry? es) (k.entry? es') :=
      (sectionEntries_reordered h hes hreordered k).lookup names k.name
    rw [valueIn?_eq_some_iff] at hx ⊢
    rcases hx with ⟨hnone, hdefault⟩ | ⟨v, hv, hwrites⟩
    · rw [hnone] at hrel
      generalize k.entry? es' = found at hrel
      cases hrel
      exact Or.inl ⟨rfl, hdefault⟩
    · have hdistinct : v.Distinct := each _ ((Toml.lookup_eq_some_iff_mem names).mp hv)
      rw [hv] at hrel
      generalize k.entry? es' = found at hrel
      cases hrel with
      | some hreordered => exact Or.inr ⟨_, rfl, hwrites.of_reordered hdistinct hreordered⟩

/-! ## Entries that are no settings -/

namespace Setting

/-- All settings. -/
def all : List Setting :=
  [address, serviceName, catalogAddress, catalogTimeout, provider, flagService, flagTimeout,
    cacheFlag, flagValues, maxEntries, refreshProbability, maxResponses]

theorem mem_all (k : Setting) : k ∈ all := by
  cases k <;> decide

/-- Whether a setting belongs to a section. -/
def knowsSection (group : String) : Bool := all.any (·.group == group)

/-- Whether a section has a setting with a name. -/
def knows (group name : String) : Bool := all.any fun k => k.group == group && k.name == name

theorem knowsSection_group (k : Setting) : knowsSection k.group = true :=
  List.any_eq_true.mpr ⟨k, mem_all k, beq_self_eq_true _⟩

theorem knows_group_name (k : Setting) : knows k.group k.name = true :=
  List.any_eq_true.mpr ⟨k, mem_all k, by simp⟩

end Setting

/-- A section without the entries that are no settings. -/
def knownPart (group : String) : Toml → Toml
  | .table inner => .table (inner.filter fun e => Setting.knows group e.1)
  | v => v

/-- A document without the sections and the entries that are no settings. -/
def knownEntries (es : List (String × Toml)) : List (String × Toml) :=
  (es.filter fun e => Setting.knowsSection e.1).map fun e => (e.1, knownPart e.1 e.2)

theorem lookup_filter_fst {keep : String → Bool} {name : String} (h : keep name = true) :
    (es.filter fun e => keep e.1).lookup name = es.lookup name := by
  induction es with
  | nil => rfl
  | cons e es ih =>
    by_cases hname : name = e.1
    · subst hname
      rw [List.filter_cons, if_pos h, List.lookup_cons, List.lookup_cons, beq_self_eq_true]
    · have hne : (name == e.1) = false := beq_false_of_ne hname
      rw [List.filter_cons, List.lookup_cons, hne, ← ih]
      split
      · rw [List.lookup_cons, hne]
      · rfl

theorem lookup_map_snd (f : String → Toml → Toml) (name : String) :
    (es.map fun e => (e.1, f e.1 e.2)).lookup name = (es.lookup name).map (f name) := by
  induction es with
  | nil => rfl
  | cons e es ih =>
    rw [List.map_cons, List.lookup_cons, List.lookup_cons]
    by_cases hname : name = e.1
    · subst hname
      rw [beq_self_eq_true]
      rfl
    · have hne : (name == e.1) = false := beq_false_of_ne hname
      rw [hne]
      exact ih

theorem lookup_knownEntries (k : Setting) :
    (knownEntries es).lookup k.group = (es.lookup k.group).map (knownPart k.group) := by
  unfold knownEntries
  rw [lookup_map_snd, lookup_filter_fst k.knowsSection_group]

/-- The entry of a setting is not left out. -/
theorem entry?_knownEntries (k : Setting) : k.entry? (knownEntries es) = k.entry? es := by
  unfold Setting.entry? sectionEntries
  rw [lookup_knownEntries]
  cases es.lookup k.group with
  | none => rfl
  | some v =>
    cases v with
    | table inner => exact lookup_filter_fst k.knows_group_name
    | _ => rfl

theorem knownSectionsAreTables_knownEntries_iff :
    KnownSectionsAreTables (knownEntries es) ↔ KnownSectionsAreTables es := by
  have hpart : ∀ (group : String) v,
      (∃ inner, knownPart group v = .table inner) ↔ ∃ inner, v = .table inner := by
    intro group v
    cases v <;> simp [knownPart]
  constructor
  · intro h k v hlookup
    rw [← hpart k.group]
    exact h k _ (by rw [lookup_knownEntries, hlookup, Option.map_some])
  · intro h k v hlookup
    rw [lookup_knownEntries] at hlookup
    obtain ⟨w, hw, rfl⟩ := Option.map_eq_some_iff.mp hlookup
    exact (hpart k.group w).mpr (h k w hw)

theorem distinct_knownEntries (h : (Toml.table es).Distinct) :
    (Toml.table (knownEntries es)).Distinct := by
  have hpart : ∀ (group : String) v, v.Distinct → (knownPart group v).Distinct := by
    intro group v hv
    cases hv with
    | table names each =>
      exact .table (names.sublist (List.filter_sublist.map _))
        fun e he => each e (List.mem_of_mem_filter he)
    | text s => exact .text s
    | whole n => exact .whole n
    | real x => exact .real x
    | bool b => exact .bool b
    | moment s => exact .moment s
    | array each => exact .array each
  cases h with
  | table names each =>
    refine .table ?_ fun e he => ?_
    · unfold knownEntries
      rw [List.map_map]
      exact names.sublist (List.filter_sublist.map _)
    · obtain ⟨e, hmem, rfl⟩ := List.mem_map.mp he
      exact hpart _ _ (each e (List.mem_of_mem_filter hmem))

/-- Documents alike but for the order of entries are so without what is no setting. -/
theorem knownEntries_reordered (h : Toml.Reordered (.table es) (.table es')) :
    Toml.Reordered (.table (knownEntries es)) (.table (knownEntries es')) := by
  refine (h.filter Setting.knowsSection).map fun group v v' hv => ?_
  cases v with
  | table inner =>
    obtain ⟨inner', rfl⟩ := hv.exists_table
    exact hv.filter (Setting.knows group)
  | array items => cases hv with
    | refl => exact .refl _
    | array each => exact .array each
  | _ =>
    cases hv
    exact .refl _

/-- Documents whose settings are alike but for the order have the same settings. -/
theorem Settings.ofEntries_of_reordered {s : Settings} (htables : KnownSectionsAreTables es)
    (hes : (Toml.table es).Distinct)
    (h : Toml.Reordered (.table (knownEntries es)) (.table (knownEntries es')))
    (hs : ofEntries es = some s) : ofEntries es' = some s := by
  have hknown : KnownSectionsAreTables (knownEntries es) :=
    knownSectionsAreTables_knownEntries_iff.mpr htables
  have hdistinct := distinct_knownEntries hes
  have htables' : KnownSectionsAreTables es' :=
    knownSectionsAreTables_knownEntries_iff.mp (hknown.of_reordered hdistinct h)
  rw [ofEntries_eq_some_iff htables] at hs
  rw [ofEntries_eq_some_iff htables']
  intro k
  have hk : k.valueIn? (knownEntries es) = some (k.get s) := by
    unfold Setting.valueIn?
    rw [entry?_knownEntries]
    exact hs k
  have hk' := Setting.valueIn?_of_reordered hknown hdistinct h hk
  unfold Setting.valueIn? at hk'
  rwa [entry?_knownEntries] at hk'

/-! ## One more setting -/

/-- A document becomes another by one more setting: an entry of its section, or a new section with
this entry alone. -/
inductive Setting.Adds (k : Setting) (v : Toml) :
    List (String × Toml) → List (String × Toml) → Prop
  | entry (front back before after : List (String × Toml)) :
    Adds k v (front ++ (k.group, .table (before ++ after)) :: back)
      (front ++ (k.group, .table (before ++ (k.name, v) :: after)) :: back)
  | group (front back : List (String × Toml)) :
    Adds k v (front ++ back) (front ++ (k.group, .table [(k.name, v)]) :: back)

/-- An entry is found among entries with different names. -/
theorem lookup_middle_self {front back : List (String × Toml)} {name : String} {v : Toml}
    (hnames : ((front ++ (name, v) :: back).map (·.1)).Nodup) :
    (front ++ (name, v) :: back).lookup name = some v :=
  (Toml.lookup_eq_some_iff_mem hnames).mpr (by simp)

/-- It does not change how others are found. -/
theorem lookup_middle_of_ne {front back : List (String × Toml)} {name other : String} {v : Toml}
    (h : other ≠ name) :
    (front ++ (name, v) :: back).lookup other = (front ++ back).lookup other := by
  have hne : (other == name) = false := beq_false_of_ne h
  rw [List.lookup_append, List.lookup_append, List.lookup_cons, hne]

namespace Setting.Adds

variable {k : Setting} {v : Toml}

/-- Other sections stay as they are. -/
theorem lookup_of_ne (h : k.Adds v es es') {group : String} (hgroup : group ≠ k.group) :
    es'.lookup group = es.lookup group := by
  cases h with
  | entry front back before after => rw [lookup_middle_of_ne hgroup, lookup_middle_of_ne hgroup]
  | group front back => rw [lookup_middle_of_ne hgroup]

/-- The section of the setting is there in the end. -/
theorem exists_lookup_group (h : k.Adds v es es') (hes' : (Toml.table es').Distinct) :
    ∃ inner, es'.lookup k.group = some (.table inner) := by
  cases hes' with
  | table names _ =>
    cases h with
    | entry front back before after => exact ⟨_, lookup_middle_self names⟩
    | group front back => exact ⟨_, lookup_middle_self names⟩

/-- The section of the setting gets one more entry. -/
theorem exists_sectionEntries (h : k.Adds v es es') (hes' : (Toml.table es').Distinct) :
    ∃ before after, sectionEntries es k.group = before ++ after ∧
      sectionEntries es' k.group = before ++ (k.name, v) :: after := by
  cases hes' with
  | table names _ =>
    cases h with
    | entry front back before after =>
      have hold : (front ++ (k.group, Toml.table (before ++ after)) :: back).lookup k.group =
          some (.table (before ++ after)) := by
        refine lookup_middle_self ?_
        simpa only [List.map_append, List.map_cons] using names
      refine ⟨before, after, ?_, ?_⟩
      · rw [sectionEntries, hold]
        rfl
      · rw [sectionEntries, lookup_middle_self names]
        rfl
    | group front back =>
      have hnone : (front ++ back).lookup k.group = none := by
        rw [List.map_append, List.map_cons, List.nodup_middle, List.nodup_cons,
          ← List.map_append] at names
        rw [List.lookup_eq_none_iff]
        intro e he
        exact bne_iff_ne.mpr fun hname => names.1 (List.mem_map.mpr ⟨e, he, hname.symm⟩)
      refine ⟨[], [], ?_, ?_⟩
      · rw [sectionEntries, hnone]
        rfl
      · rw [sectionEntries, lookup_middle_self names]
        rfl

/-- The setting is found. -/
theorem entry?_self (h : k.Adds v es es') (hes' : (Toml.table es').Distinct) :
    k.entry? es' = some v := by
  obtain ⟨before, after, -, hnew⟩ := h.exists_sectionEntries hes'
  have hsection := distinct_sectionEntries hes' k.group
  rw [hnew] at hsection
  cases hsection with
  | table names _ =>
    unfold Setting.entry?
    rw [hnew]
    exact lookup_middle_self names

/-- Other settings are found as before. -/
theorem entry?_of_ne (h : k.Adds v es es') (hes' : (Toml.table es').Distinct) {j : Setting}
    (hj : j ≠ k) : j.entry? es' = j.entry? es := by
  unfold Setting.entry?
  by_cases hgroup : j.group = k.group
  · obtain ⟨before, after, hold, hnew⟩ := h.exists_sectionEntries hes'
    have hname : j.name ≠ k.name := fun hname => hj (Setting.eq_of_key hgroup hname)
    rw [hgroup, hold, hnew]
    exact lookup_middle_of_ne hname
  · unfold sectionEntries
    rw [h.lookup_of_ne hgroup]

theorem knownSectionsAreTables (h : k.Adds v es es') (hes' : (Toml.table es').Distinct)
    (htables : KnownSectionsAreTables es) : KnownSectionsAreTables es' := by
  intro j w hlookup
  by_cases hgroup : j.group = k.group
  · obtain ⟨inner, hinner⟩ := h.exists_lookup_group hes'
    rw [hgroup, hinner] at hlookup
    exact ⟨inner, (Option.some.inj hlookup).symm⟩
  · rw [h.lookup_of_ne hgroup] at hlookup
    exact htables j w hlookup

end Setting.Adds

end Shortlist
