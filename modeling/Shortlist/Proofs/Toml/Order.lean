import Mathlib.Data.List.Forall2
import Mathlib.Data.List.Perm.Basic
import Shortlist.Proofs.Toml.Names

/-!
# The order of entries

Two values are alike but for the order of entries if each table of one has the entries of a table of
the other, in whatever order, with values that are alike in the same way (`Reordered`). Tables that
are so stay so without the entries of certain names (`Reordered.filter`), and where names are
different, alike values are found by a name in both (`Reordered.lookup`).
-/

namespace Shortlist.Toml

/-- Values alike but for the order of entries in their tables. -/
inductive Reordered : Toml → Toml → Prop
  | refl (v : Toml) : Reordered v v
  | array {items items' : List Toml} (each : List.Forall₂ Reordered items items') :
    Reordered (.array items) (.array items')
  /-- A table whose values are changed one by one to those of `mid`, and then moved. -/
  | table {es mid es' : List (String × Toml)} (names : es.map (·.1) = mid.map (·.1))
    (each : List.Forall₂ Reordered (es.map (·.2)) (mid.map (·.2))) (order : mid.Perm es') :
    Reordered (.table es) (.table es')

/-- Entries with the same name and alike values. -/
def AlikeEntries (e e' : String × Toml) : Prop := e.1 = e'.1 ∧ Reordered e.2 e'.2

variable {es mid es' : List (String × Toml)} {name : String} {v v' : Toml}

/-! ## Tables -/

theorem map_fst_of_alike (h : List.Forall₂ AlikeEntries es mid) :
    es.map (·.1) = mid.map (·.1) := by
  induction h with
  | nil => rfl
  | cons halike _ ih => rw [List.map_cons, List.map_cons, halike.1, ih]

theorem Reordered.of_each (each : List.Forall₂ AlikeEntries es mid) (order : mid.Perm es') :
    Reordered (.table es) (.table es') := by
  refine .table (map_fst_of_alike each) ?_ order
  clear order
  induction each with
  | nil => exact .nil
  | cons halike _ ih => exact .cons halike.2 ih

/-- The entries of tables alike but for the order are alike one by one, and then moved. -/
theorem Reordered.exists_each (h : Reordered (.table es) (.table es')) :
    ∃ mid, List.Forall₂ AlikeEntries es mid ∧ mid.Perm es' := by
  cases h with
  | refl => exact ⟨es, List.forall₂_same.mpr fun e _ => ⟨rfl, .refl e.2⟩, .refl es⟩
  | @table _ mid _ names each order =>
    refine ⟨mid, ?_, order⟩
    clear order
    induction es generalizing mid with
    | nil =>
      obtain rfl := List.map_eq_nil_iff.mp names.symm
      exact .nil
    | cons e es ih =>
      cases mid with
      | nil => cases names
      | cons e' mid =>
        obtain ⟨hname, hnames⟩ := List.cons.inj names
        cases each with
        | cons hvalue heach => exact .cons ⟨hname, hvalue⟩ (ih hnames heach)

theorem Reordered.of_perm (h : es.Perm es') : Reordered (.table es) (.table es') :=
  .of_each (List.forall₂_same.mpr fun e _ => ⟨rfl, .refl e.2⟩) h

/-- What is alike to a table is a table. -/
theorem Reordered.exists_table (h : Reordered (.table es) v) : ∃ es', v = .table es' := by
  cases h with
  | refl => exact ⟨es, rfl⟩
  | table _ _ _ => exact ⟨_, rfl⟩

/-- What is alike to an empty table is empty. -/
theorem Reordered.eq_of_nil (h : Reordered (.table []) v) : v = .table [] := by
  obtain ⟨es', rfl⟩ := h.exists_table
  obtain ⟨mid, heach, horder⟩ := h.exists_each
  cases heach
  rw [List.nil_perm.mp horder]

/-- What is alike to a table with one entry has one, too. -/
theorem Reordered.exists_singleton (h : Reordered (.table [(name, v)]) v') :
    ∃ w, v' = .table [(name, w)] ∧ Reordered v w := by
  obtain ⟨es', rfl⟩ := h.exists_table
  obtain ⟨mid, heach, horder⟩ := h.exists_each
  cases heach with
  | @cons _ e' _ _ halike hrest =>
    cases hrest
    obtain ⟨name', w⟩ := e'
    obtain ⟨rfl, hvalue⟩ := halike
    exact ⟨w, by rw [List.singleton_perm.mp horder], hvalue⟩

/-- Tables stay alike without the entries of certain names. -/
theorem Reordered.filter (keep : String → Bool) (h : Reordered (.table es) (.table es')) :
    Reordered (.table (es.filter fun e => keep e.1)) (.table (es'.filter fun e => keep e.1)) := by
  obtain ⟨mid, heach, horder⟩ := h.exists_each
  refine .of_each ?_ (horder.filter _)
  clear horder h
  induction heach with
  | nil => exact .nil
  | @cons e e' es mid halike _ ih =>
    rw [List.filter_cons, List.filter_cons, ← halike.1]
    split
    · exact .cons halike ih
    · exact ih

/-- Tables stay alike if their values are changed alike, each by its name. -/
theorem Reordered.map {f : String → Toml → Toml}
    (hf : ∀ name v v', Reordered v v' → Reordered (f name v) (f name v'))
    (h : Reordered (.table es) (.table es')) :
    Reordered (.table (es.map fun e => (e.1, f e.1 e.2)))
      (.table (es'.map fun e => (e.1, f e.1 e.2))) := by
  obtain ⟨mid, heach, horder⟩ := h.exists_each
  refine .of_each ?_ (horder.map _)
  clear horder h
  induction heach with
  | nil => exact .nil
  | @cons e e' es mid halike _ ih =>
    obtain ⟨hname, hvalue⟩ := halike
    have hchanged : Reordered (f e.1 e.2) (f e'.1 e'.2) := hname ▸ hf e.1 e.2 e'.2 hvalue
    exact .cons ⟨hname, hchanged⟩ ih

/-! ## Finding entries -/

/-- Where names are different, an entry is found by its name. -/
theorem lookup_eq_some_iff_mem (hnames : (es.map (·.1)).Nodup) :
    es.lookup name = some v ↔ (name, v) ∈ es := by
  induction es with
  | nil => simp
  | cons e es ih =>
    obtain ⟨hfirst, hrest⟩ := List.nodup_cons.mp hnames
    rw [List.lookup_cons]
    by_cases h : name = e.1
    · subst h
      have hnot : (e.1, v) ∉ es := fun hmem => hfirst (List.mem_map.mpr ⟨_, hmem, rfl⟩)
      simp [hnot, Prod.ext_iff, eq_comm]
    · have hne : (name == e.1) = false := beq_false_of_ne h
      simp [hne, ih hrest, Prod.ext_iff, h]

/-- Where names are different, their order does not matter. -/
theorem lookup_of_perm (hnames : (es.map (·.1)).Nodup) (h : es.Perm es') (name : String) :
    es'.lookup name = es.lookup name := by
  have hnames' : (es'.map (·.1)).Nodup := (h.map _).nodup_iff.mp hnames
  refine Option.ext fun v => ?_
  rw [lookup_eq_some_iff_mem hnames, lookup_eq_some_iff_mem hnames', h.mem_iff]

theorem lookup_of_alike (h : List.Forall₂ AlikeEntries es mid) (name : String) :
    Option.Rel Reordered (es.lookup name) (mid.lookup name) := by
  induction h with
  | nil => exact .none
  | @cons e e' es mid halike _ ih =>
    rw [List.lookup_cons, List.lookup_cons, ← halike.1]
    cases name == e.1 with
    | true => exact .some halike.2
    | false => exact ih

/-- In tables alike but for the order, alike values are found by a name. -/
theorem Reordered.lookup (h : Reordered (.table es) (.table es')) (hnames : (es.map (·.1)).Nodup)
    (name : String) : Option.Rel Reordered (es.lookup name) (es'.lookup name) := by
  obtain ⟨mid, heach, horder⟩ := h.exists_each
  rw [map_fst_of_alike heach] at hnames
  rw [lookup_of_perm hnames horder]
  exact lookup_of_alike heach name

end Shortlist.Toml
