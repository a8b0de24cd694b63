import Mathlib.Data.List.Nodup
import Shortlist.Toml.Reader

/-!
# The names of entries

A document names no entry twice: neither by two lines nor by headers, dotted keys and inline tables
that meet in one table. Of a table under construction this is kept by all that lines do
(`Draft.Named.put`, `Draft.Named.close`, `Draft.Named.beginTable`, `Draft.Named.beginItem`), so that
every table of a document that has been read names its entries differently (`distinct_of_read`).
-/

namespace Shortlist.Toml

/-- Every table of a value names its entries differently. -/
inductive Distinct : Toml → Prop
  | text (s : String) : Distinct (.text s)
  | whole (n : Int) : Distinct (.whole n)
  | real (x : Float) : Distinct (.real x)
  | bool (b : Bool) : Distinct (.bool b)
  | moment (s : String) : Distinct (.moment s)
  | array {items : List Toml} (each : ∀ v ∈ items, Distinct v) : Distinct (.array items)
  | table {es : List (String × Toml)} (names : (es.map (·.1)).Nodup)
    (each : ∀ e ∈ es, Distinct e.2) : Distinct (.table es)

namespace Node

/-- Every table of an entry under construction names its entries differently. -/
inductive Distinct : Node → Prop
  | value {v : Toml} (inner : v.Distinct) : Distinct (.value v)
  | table {implied dotted : Bool} {es : Entries} (names : (es.map (·.1)).Nodup)
    (each : ∀ e ∈ es, Distinct e.2) : Distinct (.table implied dotted es)
  | tables {items : List Entries} (names : ∀ es ∈ items, (es.map (·.1)).Nodup)
    (each : ∀ es ∈ items, ∀ e ∈ es, Distinct e.2) : Distinct (.tables items)

/-- Entries with different names, and so in every table among them. -/
structure Named (es : Entries) : Prop where
  names : (es.map (·.1)).Nodup
  each : ∀ e ∈ es, e.2.Distinct

variable {es es' : Entries} {name : String} {n : Node}

/-! ## Values of entries -/

theorem entriesToToml_eq (es : Entries) :
    entriesToToml es = es.map fun e => (e.1, e.2.toToml) := by
  induction es with
  | nil => rfl
  | cons e es ih => rw [entriesToToml, ih, List.map_cons]

theorem itemsToToml_eq (items : List Entries) :
    itemsToToml items = items.map fun es => .table (entriesToToml es) := by
  induction items with
  | nil => rfl
  | cons es items ih => rw [itemsToToml, ih, List.map_cons]

theorem map_fst_entriesToToml (es : Entries) : (entriesToToml es).map (·.1) = es.map (·.1) := by
  rw [entriesToToml_eq, List.map_map]
  rfl

/-- The values of entries keep their names. -/
theorem Distinct.toToml (h : n.Distinct) : n.toToml.Distinct := by
  induction h with
  | value inner => exact inner
  | @table implied dotted es names each ih =>
    rw [Node.toToml]
    refine .table (by rwa [map_fst_entriesToToml]) fun e he => ?_
    rw [entriesToToml_eq] at he
    obtain ⟨entry, hentry, rfl⟩ := List.mem_map.mp he
    exact ih entry hentry
  | @tables items names each ih =>
    rw [Node.toToml, itemsToToml_eq]
    refine .array fun v hv => ?_
    obtain ⟨es, hes, rfl⟩ := List.mem_map.mp hv
    refine .table (by rw [map_fst_entriesToToml]; exact names es hes) fun e he => ?_
    rw [entriesToToml_eq] at he
    obtain ⟨entry, hentry, rfl⟩ := List.mem_map.mp he
    exact ih es hes entry hentry

/-- So the table of the values of entries names them differently. -/
theorem Named.toToml (h : Named es) : (Toml.table (entriesToToml es)).Distinct := by
  have htable : (Node.table false false es).Distinct := .table h.names h.each
  exact htable.toToml

/-! ## Changes of entries -/

theorem Named.nil : Named [] := ⟨List.nodup_nil, by simp⟩

theorem mem_of_lookup (h : es.lookup name = some n) : (name, n) ∈ es := by
  obtain ⟨front, back, rfl, -⟩ := List.lookup_eq_some_iff.mp h
  simp

theorem not_mem_names_of_lookup (h : es.lookup name = none) : name ∉ es.map (·.1) := by
  intro hname
  obtain ⟨e, he, rfl⟩ := List.mem_map.mp hname
  have hne := List.lookup_eq_none_iff.mp h e he
  simp at hne

theorem Named.distinct_of_lookup (h : Named es) (hlookup : es.lookup name = some n) :
    n.Distinct := h.each _ (mem_of_lookup hlookup)

/-- A name that is not there may be added. -/
theorem Named.concat (h : Named es) (hlookup : es.lookup name = none) (hn : n.Distinct) :
    Named (es ++ [(name, n)]) where
  names := by
    rw [List.map_append, List.nodup_append]
    refine ⟨h.names, List.nodup_singleton _, ?_⟩
    rintro a ha b hb rfl
    obtain rfl : a = name := by simpa using hb
    exact not_mem_names_of_lookup hlookup ha
  each := by
    intro e he
    rcases List.mem_append.mp he with hold | hnew
    · exact h.each e hold
    · obtain rfl := List.mem_singleton.mp hnew
      exact hn

/-- A change of an entry keeps the names. -/
theorem map_fst_changeEntry {f : Node → Option Node} (h : changeEntry name f es = some es') :
    es'.map (·.1) = es.map (·.1) := by
  induction es generalizing es' with
  | nil => cases h
  | cons e es ih =>
    rw [changeEntry] at h
    split at h
    · obtain ⟨v, -, rfl⟩ := Option.map_eq_some_iff.mp h
      rfl
    · obtain ⟨later, hlater, rfl⟩ := Option.map_eq_some_iff.mp h
      rw [List.map_cons, List.map_cons, ih hlater]

theorem mem_of_changeEntry {f : Node → Option Node} (h : changeEntry name f es = some es')
    {e : String × Node} (he : e ∈ es') : e ∈ es ∨ ∃ v, f v = some e.2 := by
  induction es generalizing es' with
  | nil => cases h
  | cons first es ih =>
    rw [changeEntry] at h
    split at h
    · obtain ⟨v, hv, rfl⟩ := Option.map_eq_some_iff.mp h
      rcases List.mem_cons.mp he with rfl | hold
      · exact Or.inr ⟨_, hv⟩
      · exact Or.inl (List.mem_cons_of_mem _ hold)
    · obtain ⟨later, hlater, rfl⟩ := Option.map_eq_some_iff.mp h
      rcases List.mem_cons.mp he with rfl | hold
      · exact Or.inl List.mem_cons_self
      · exact (ih hlater hold).imp_left (List.mem_cons_of_mem _)

/-- An entry may be replaced. -/
theorem Named.replace (h : Named es) (hchange : changeEntry name (fun _ => some n) es = some es')
    (hn : n.Distinct) : Named es' where
  names := by
    rw [map_fst_changeEntry hchange]
    exact h.names
  each := by
    intro e he
    rcases mem_of_changeEntry hchange he with hold | ⟨v, hv⟩
    · exact h.each e hold
    · obtain rfl := Option.some.inj hv
      exact hn

theorem forall_mem_of_changeLast {α : Type} {P : α → Prop} {f : α → Option α}
    {items items' : List α} (hitems : ∀ a ∈ items, P a) (hf : ∀ a a', P a → f a = some a' → P a')
    (h : changeLast f items = some items') : ∀ a ∈ items', P a := by
  fun_induction changeLast f items generalizing items' with
  | case1 => cases h
  | case2 a =>
    obtain ⟨a', ha', rfl⟩ := Option.map_eq_some_iff.mp h
    exact List.forall_mem_singleton.mpr (hf a a' (hitems a List.mem_cons_self) ha')
  | case3 a rest _ ih =>
    obtain ⟨later, hlater, rfl⟩ := Option.map_eq_some_iff.mp h
    obtain ⟨ha, hrest⟩ := List.forall_mem_cons.mp hitems
    exact List.forall_mem_cons.mpr ⟨ha, ih hrest hlater⟩

/-- What changes the table at the end of a path keeps names different, if the change does. -/
theorem Named.descend {byKey : Bool} {change : Bool → Entries → Option Entries}
    (hchange : ∀ {dotted es es'}, Named es → change dotted es = some es' → Named es')
    {path : List String} {dotted : Bool} (h : Named es)
    (hdescend : Node.descend byKey change path dotted es = some es') : Named es' := by
  induction path generalizing dotted es es' with
  | nil => exact hchange h hdescend
  | cons name path ih =>
    rw [Node.descend] at hdescend
    split at hdescend
    · -- The table is missing, and is implied.
      rename_i hlookup
      obtain ⟨inner, hinner, heq⟩ := Option.bind_eq_some_iff.mp hdescend
      obtain rfl := Option.some.inj heq
      have hnamed := ih .nil hinner
      exact h.concat hlookup (.table hnamed.names hnamed.each)
    · cases hdescend
    · rename_i implied dotted inner hlookup
      split at hdescend
      · cases hdescend
      · obtain ⟨inner', hinner, hreplace⟩ := Option.bind_eq_some_iff.mp hdescend
        cases h.distinct_of_lookup hlookup with
        | table names each =>
          have hnamed := ih ⟨names, each⟩ hinner
          exact h.replace hreplace (.table hnamed.names hnamed.each)
    · rename_i items hlookup
      obtain ⟨items', hitems, hreplace⟩ := Option.bind_eq_some_iff.mp hdescend
      cases h.distinct_of_lookup hlookup with
      | tables names each =>
        have hall : ∀ es ∈ items', Named es :=
          forall_mem_of_changeLast (fun es hes => ⟨names es hes, each es hes⟩)
            (fun es es' hes hlast => ih hes hlast) hitems
        exact h.replace hreplace
          (.tables (fun es hes => (hall es hes).names) fun es hes => (hall es hes).each)

/-- The entries of a table at the end of a path. -/
theorem Named.entriesAt? {path : List String} (h : Named es)
    (hentries : Node.entriesAt? path es = some es') : Named es' := by
  induction path generalizing es es' with
  | nil =>
    obtain rfl := Option.some.inj hentries
    exact h
  | cons name path ih =>
    rw [Node.entriesAt?] at hentries
    split at hentries
    · obtain rfl := Option.some.inj hentries
      exact .nil
    · cases hentries
    · rename_i hlookup
      cases h.distinct_of_lookup hlookup with
      | table names each => exact ih ⟨names, each⟩ hentries
    · rename_i items hlookup
      cases h.distinct_of_lookup hlookup with
      | tables names each =>
        refine ih ?_ hentries
        cases hlast : items.getLast? with
        | none => exact .nil
        | some es =>
          have hmem := List.mem_of_getLast? hlast
          exact ⟨names es hmem, each es hmem⟩

/-- A value may be added under a key. -/
theorem Named.put {path : List String} {v : Toml} (h : Named es) (hv : v.Distinct)
    (hput : Node.put path name v es = some es') : Named es' := by
  refine h.descend (fun {dotted es es'} hnamed hadd => ?_) hput
  split at hadd
  · cases hadd
  · rename_i hfree
    obtain rfl := Option.some.inj hadd
    have hlookup : es.lookup name = none := by
      rw [← Option.not_isSome_iff_eq_none]
      exact fun hsome => hfree (Or.inr hsome)
    exact hnamed.concat hlookup (.value hv)

end Node

/-! ## Documents under construction -/

namespace Draft

/-- The tables of a document under construction name their entries differently. -/
structure Named (d : Draft) : Prop where
  root : Node.Named d.root
  current : Node.Named d.current

variable {d d' : Draft} {es es' : Entries} {path : List String} {name : String}

/-- A header changes the table that holds the last part of its path. -/
theorem changeParent_named {change : String → Entries → Option Entries} (h : Node.Named d.root)
    (hchange : ∀ {name es es'}, Node.Named es → change name es = some es' → Node.Named es')
    (heq : d.changeParent path change = some es') : Node.Named es' := by
  unfold changeParent at heq
  split at heq
  · cases heq
  · exact h.descend hchange heq

/-- Items may be added to an array of tables. -/
theorem addItem_named {item : List Entries} (hitem : ∀ es ∈ item, Node.Named es)
    (h : Node.Named es) (heq : addItem item name es = some es') : Node.Named es' := by
  unfold addItem at heq
  split at heq
  · rename_i hlookup
    obtain rfl := Option.some.inj heq
    exact h.concat hlookup
      (.tables (fun es hes => (hitem es hes).names) fun es hes => (hitem es hes).each)
  · rename_i items hlookup
    cases h.distinct_of_lookup hlookup with
    | tables names each =>
      have hall : ∀ es ∈ items ++ item, Node.Named es := by
        intro es hes
        rcases List.mem_append.mp hes with hold | hnew
        · exact ⟨names es hold, each es hold⟩
        · exact hitem es hnew
      exact h.replace heq
        (.tables (fun es hes => (hall es hes).names) fun es hes => (hall es hes).each)
  · cases heq

/-- The current table is put in its place. -/
theorem Named.close (h : d.Named) (heq : d.close = some es') : Node.Named es' := by
  unfold Draft.close at heq
  split at heq
  · obtain rfl := Option.some.inj heq
    exact h.current
  · refine changeParent_named h.root (fun {name es es'} hes hadd => ?_) heq
    split at hadd
    · exact addItem_named (List.forall_mem_singleton.mpr h.current) hes hadd
    · split at hadd
      · cases hadd
      · rename_i hfree
        obtain rfl := Option.some.inj hadd
        exact hes.concat (Option.not_isSome_iff_eq_none.mp hfree)
          (.table h.current.names h.current.each)

theorem filter_named (h : Node.Named es) (keep : String × Node → Bool) :
    Node.Named (es.filter keep) where
  names := h.names.sublist (List.filter_sublist.map _)
  each e he := h.each e (List.mem_of_mem_filter he)

/-- The table of a header is begun. -/
theorem Named.beginTable (h : d.Named) (heq : d.beginTable path = some d') : d'.Named := by
  unfold Draft.beginTable at heq
  obtain ⟨root, hclose, heq⟩ := Option.bind_eq_some_iff.mp heq
  obtain ⟨name, -, heq⟩ := Option.bind_eq_some_iff.mp heq
  obtain ⟨siblings, hsiblings, heq⟩ := Option.bind_eq_some_iff.mp heq
  have hroot : Node.Named root := h.close hclose
  split at heq
  · obtain ⟨root', hchange, heq⟩ := Option.bind_eq_some_iff.mp heq
    obtain rfl := Option.some.inj heq
    refine ⟨changeParent_named hroot (fun {name es es'} hes hsame => ?_) hchange, .nil⟩
    obtain rfl := Option.some.inj hsame
    exact hes
  · rename_i inner hlookup
    obtain ⟨root', hchange, heq⟩ := Option.bind_eq_some_iff.mp heq
    obtain rfl := Option.some.inj heq
    refine ⟨changeParent_named hroot (fun {name es es'} hes hfilter => ?_) hchange, ?_⟩
    · obtain rfl := Option.some.inj hfilter
      exact filter_named hes _
    · cases (hroot.entriesAt? hsiblings).distinct_of_lookup hlookup with
      | table names each => exact ⟨names, each⟩
  · cases heq

/-- An item of an array of tables is begun. -/
theorem Named.beginItem (h : d.Named) (heq : d.beginItem path = some d') : d'.Named := by
  unfold Draft.beginItem at heq
  obtain ⟨root, hclose, heq⟩ := Option.bind_eq_some_iff.mp heq
  obtain ⟨root', hchange, heq⟩ := Option.bind_eq_some_iff.mp heq
  obtain rfl := Option.some.inj heq
  exact ⟨changeParent_named (h.close hclose) (addItem_named (by simp)) hchange, .nil⟩

/-- A value is added to the current table. -/
theorem Named.put {v : Toml} (h : d.Named) (hv : v.Distinct)
    (heq : d.put path name v = some d') : d'.Named := by
  unfold Draft.put at heq
  obtain ⟨current, hput, heq⟩ := Option.bind_eq_some_iff.mp heq
  obtain rfl := Option.some.inj heq
  exact ⟨h.root, h.current.put hv hput⟩

end Draft

/-! ## Reading -/

variable {cs rest : List Char} {v : Toml}

theorem distinct_of_wholeOf? {n : Int} (h : wholeOf? n = some v) : v.Distinct := by
  unfold wholeOf? at h
  split at h
  · obtain rfl := Option.some.inj h
    exact .whole n
  · cases h

theorem distinct_of_realOf? {negative : Bool} {ds fraction : List Char} {e : Int}
    (h : realOf? negative ds fraction e = some v) : v.Distinct := by
  unfold realOf? at h
  dsimp only at h
  split at h
  · cases h
  · obtain rfl := Option.some.inj h
    exact .real _

/-- What is read with something behind it. -/
theorem eq_some_of_bind {α : Type} {x? : Option α} {x : α} {r : List Char}
    (h : (x?.bind fun x => some (x, r)) = some (x, rest)) : x? = some x := by
  obtain ⟨y, hy, heq⟩ := Option.bind_eq_some_iff.mp h
  obtain ⟨rfl, -⟩ := Prod.mk.inj (Option.some.inj heq)
  exact hy

theorem distinct_of_readDecimalTail {negative : Bool} {ds : List Char}
    (h : readDecimalTail negative ds cs = some (v, rest)) : v.Distinct := by
  unfold readDecimalTail at h
  split at h
  · obtain ⟨⟨fraction, r⟩, -, h⟩ := Option.bind_eq_some_iff.mp h
    dsimp only at h
    split at h
    · obtain ⟨⟨e, r⟩, -, h⟩ := Option.bind_eq_some_iff.mp h
      exact distinct_of_realOf? (eq_some_of_bind h)
    · obtain ⟨⟨e, r⟩, -, h⟩ := Option.bind_eq_some_iff.mp h
      exact distinct_of_realOf? (eq_some_of_bind h)
    · exact distinct_of_realOf? (eq_some_of_bind h)
  · obtain ⟨⟨e, r⟩, -, h⟩ := Option.bind_eq_some_iff.mp h
    exact distinct_of_realOf? (eq_some_of_bind h)
  · obtain ⟨⟨e, r⟩, -, h⟩ := Option.bind_eq_some_iff.mp h
    exact distinct_of_realOf? (eq_some_of_bind h)
  · exact distinct_of_wholeOf? (eq_some_of_bind h)

theorem distinct_of_readBase {base : Nat} {digit : Char → Bool}
    (h : readBase base digit cs = some (v, rest)) : v.Distinct := by
  unfold readBase at h
  obtain ⟨⟨ds, r⟩, -, h⟩ := Option.bind_eq_some_iff.mp h
  exact distinct_of_wholeOf? (eq_some_of_bind h)

/-- A number has no entries. -/
theorem distinct_of_readNumber (h : readNumber cs = some (v, rest)) : v.Distinct := by
  unfold readNumber at h
  split at h
  · exact distinct_of_readBase h
  · exact distinct_of_readBase h
  · exact distinct_of_readBase h
  · unfold readSigned at h
    dsimp only at h
    split at h
    · obtain ⟨rfl, -⟩ := Prod.mk.inj (Option.some.inj h)
      exact .real _
    · obtain ⟨rfl, -⟩ := Prod.mk.inj (Option.some.inj h)
      exact .real _
    · exact distinct_of_readDecimalTail h
    · obtain ⟨⟨ds, r⟩, -, h⟩ := Option.bind_eq_some_iff.mp h
      exact distinct_of_readDecimalTail h

/-- Neither has any other value without brackets or braces. -/
theorem distinct_of_readScalarValue (h : readScalarValue cs = some (v, rest)) : v.Distinct := by
  have htext : ∀ {x? : Option (String × List Char)},
      (x?.map fun x => (Toml.text x.1, x.2)) = some (v, rest) → v.Distinct := by
    intro x? hx
    obtain ⟨x, -, heq⟩ := Option.map_eq_some_iff.mp hx
    obtain ⟨rfl, -⟩ := Prod.mk.inj heq
    exact .text _
  unfold readScalarValue at h
  split at h
  · exact htext h
  · exact htext h
  · obtain ⟨rfl, -⟩ := Prod.mk.inj (Option.some.inj h)
    exact .bool _
  · obtain ⟨rfl, -⟩ := Prod.mk.inj (Option.some.inj h)
    exact .bool _
  · split at h
    · obtain ⟨rfl, -⟩ := Prod.mk.inj (Option.some.inj h)
      exact .moment _
    · exact distinct_of_readNumber h

/-- Names are different in what is read with some fuel: in values, in the items of arrays, and in
inline tables, whose members are added to those that have been read. -/
structure ReadsDistinct (fuel : Nat) : Prop where
  value : ∀ {depth cs v rest}, readValue fuel depth cs = some (v, rest) → v.Distinct
  items : ∀ {depth cs vs rest}, readItems fuel depth cs = some (vs, rest) →
    ∀ v ∈ vs, v.Distinct
  members : ∀ {depth es cs es' rest}, Node.Named es →
    readMembers fuel depth es cs = some (es', rest) → Node.Named es'

namespace ReadsDistinct

variable {fuel depth : Nat} {es es' : Entries}

theorem zero : ReadsDistinct 0 where
  value h := by
    rw [readValue] at h
    cases h
  items h := by
    rw [readItems] at h
    cases h
  members _ h := by
    rw [readMembers] at h
    cases h

theorem value_succ (ih : ReadsDistinct fuel)
    (h : readValue (fuel + 1) depth cs = some (v, rest)) : v.Distinct := by
  unfold readValue at h
  split at h
  · -- An array.
    split at h
    · cases h
    · obtain ⟨x, hx, heq⟩ := Option.map_eq_some_iff.mp h
      obtain ⟨rfl, -⟩ := Prod.mk.inj heq
      exact .array (ih.items hx)
  · -- An inline table, which may be empty.
    split at h
    · cases h
    · split at h
      · obtain ⟨rfl, -⟩ := Prod.mk.inj (Option.some.inj h)
        exact .table List.nodup_nil (by simp)
      · obtain ⟨x, hx, heq⟩ := Option.map_eq_some_iff.mp h
        obtain ⟨rfl, -⟩ := Prod.mk.inj heq
        exact (ih.members .nil hx).toToml
  · exact distinct_of_readScalarValue h

theorem items_succ (ih : ReadsDistinct fuel) {vs : List Toml}
    (h : readItems (fuel + 1) depth cs = some (vs, rest)) : ∀ v ∈ vs, v.Distinct := by
  rw [readItems] at h
  obtain ⟨cs, -, h⟩ := Option.bind_eq_some_iff.mp h
  dsimp only at h
  split at h
  · obtain ⟨rfl, -⟩ := Prod.mk.inj (Option.some.inj h)
    simp
  · obtain ⟨⟨v, r⟩, hv, h⟩ := Option.bind_eq_some_iff.mp h
    have hfirst : v.Distinct := ih.value hv
    obtain ⟨r, -, h⟩ := Option.bind_eq_some_iff.mp h
    dsimp only at h
    split at h
    · obtain ⟨rfl, -⟩ := Prod.mk.inj (Option.some.inj h)
      exact List.forall_mem_singleton.mpr hfirst
    · obtain ⟨⟨vs, r⟩, hvs, h⟩ := Option.bind_eq_some_iff.mp h
      obtain ⟨rfl, -⟩ := Prod.mk.inj (Option.some.inj h)
      exact List.forall_mem_cons.mpr ⟨hfirst, ih.items hvs⟩
    · cases h

theorem members_succ (ih : ReadsDistinct fuel) (hes : Node.Named es)
    (h : readMembers (fuel + 1) depth es cs = some (es', rest)) : Node.Named es' := by
  rw [readMembers] at h
  obtain ⟨⟨key, r⟩, -, h⟩ := Option.bind_eq_some_iff.mp h
  obtain ⟨⟨v, r⟩, hv, h⟩ := Option.bind_eq_some_iff.mp h
  obtain ⟨es, hput, h⟩ := Option.bind_eq_some_iff.mp h
  have hnamed : Node.Named es := hes.put (ih.value hv) hput
  split at h
  · obtain ⟨rfl, -⟩ := Prod.mk.inj (Option.some.inj h)
    exact hnamed
  · exact ih.members hnamed h
  · cases h

end ReadsDistinct

theorem readsDistinct (fuel : Nat) : ReadsDistinct fuel := by
  induction fuel with
  | zero => exact .zero
  | succ fuel ih => exact ⟨ih.value_succ, ih.items_succ, ih.members_succ⟩

/-- The lines of a document keep names different. -/
theorem named_of_readLines {fuel : Nat} {d d' : Draft} (h : d.Named)
    (hlines : readLines fuel d cs = some d') : d'.Named := by
  induction fuel generalizing d cs with
  | zero =>
    rw [readLines] at hlines
    cases hlines
  | succ fuel ih =>
    rw [readLines] at hlines
    split at hlines
    · obtain rfl := Option.some.inj hlines
      exact h
    · obtain ⟨r, -, hlines⟩ := Option.bind_eq_some_iff.mp hlines
      exact ih h hlines
    · obtain ⟨⟨path, r⟩, -, hlines⟩ := Option.bind_eq_some_iff.mp hlines
      obtain ⟨d₁, hbegin, hlines⟩ := Option.bind_eq_some_iff.mp hlines
      exact ih (h.beginItem hbegin) hlines
    · obtain ⟨⟨path, r⟩, -, hlines⟩ := Option.bind_eq_some_iff.mp hlines
      obtain ⟨d₁, hbegin, hlines⟩ := Option.bind_eq_some_iff.mp hlines
      exact ih (h.beginTable hbegin) hlines
    · split at hlines
      · obtain ⟨r, -, hlines⟩ := Option.bind_eq_some_iff.mp hlines
        exact ih h hlines
      · obtain ⟨⟨key, r⟩, -, hlines⟩ := Option.bind_eq_some_iff.mp hlines
        obtain ⟨⟨v, r⟩, hv, hlines⟩ := Option.bind_eq_some_iff.mp hlines
        obtain ⟨r, -, hlines⟩ := Option.bind_eq_some_iff.mp hlines
        obtain ⟨d₁, hput, hlines⟩ := Option.bind_eq_some_iff.mp hlines
        exact ih (h.put ((readsDistinct _).value hv) hput) hlines

/-- No table of a document that is read names two entries alike. -/
theorem distinct_of_read {text : String} {es : List (String × Toml)} (h : read text = some es) :
    (Toml.table es).Distinct := by
  unfold read at h
  obtain ⟨d, hlines, h⟩ := Option.bind_eq_some_iff.mp h
  obtain ⟨root, hclose, h⟩ := Option.bind_eq_some_iff.mp h
  obtain rfl := Option.some.inj h
  have hempty : ({} : Draft).Named := ⟨.nil, .nil⟩
  exact ((named_of_readLines hempty hlines).close hclose).toToml

end Shortlist.Toml
