import Shortlist.Json.Product
import Shortlist.Proofs.Json.Reader

/-!
# The JSON of a product id and back

An id is read from the JSON texts of its string, however this string is spelled and whatever blanks
stand around it (`ofJson?_spelled_iff`, `exists_spelled_of_ofJson?`), and from no other text: a JSON
text of another value is refused, and so is a string with half of a pair (`ofJson?_eq_none_of_ne`,
`ofJson?_spelled_eq_none_iff`). What is written for an id is one of its spellings
(`exists_spelled_toJson`), hence is read back, and different ids are written differently
(`ofJson?_toJson`, `toJson_injective`).
-/

namespace Shortlist.ProductId

open Shortlist.Json.Literal (Piece HasLoneHalf units spelled isSpace)

variable {id : ProductId} {t : String} {before after : List Char}

/-! ## Reading -/

theorem ofJson?_eq_some_iff_read :
    ofJson? t = some id ↔ Json.Literal.read t.toList = some id.text.toList := by
  unfold ofJson?
  rw [Option.map_eq_some_iff]
  constructor
  · rintro ⟨cs, hcs, rfl⟩
    rw [hcs, String.toList_ofList]
  · intro h
    exact ⟨_, h, by rw [String.ofList_toList]⟩

/-- An id is read from a JSON text exactly if the value of the text is the string of the id. -/
theorem ofJson?_eq_some_iff : ofJson? t = some id ↔ Json.read t = some (.text id.text) := by
  rw [ofJson?_eq_some_iff_read, Json.read_eq_text_iff]

/-- No id is read from a JSON text of another value than a string. -/
theorem ofJson?_eq_none_of_ne {v : Json} (h : Json.read t = some v) (hv : ∀ s, v ≠ .text s) :
    ofJson? t = none := by
  rw [Option.eq_none_iff_forall_ne_some]
  intro id hid
  have hread : Json.read t = some (.text id.text) := ofJson?_eq_some_iff.mp hid
  exact hv id.text (Option.some.inj (h.symm.trans hread))

/-- No id is read from a text that does not begin with a quote. -/
theorem ofJson?_eq_none_of_head? (h : (Json.skip t.toList).head? ≠ some '"') :
    ofJson? t = none := by
  rw [Option.eq_none_iff_forall_ne_some]
  intro id hid
  obtain ⟨inner, after, hskip, -, -⟩ :=
    Json.Literal.read_eq_some_iff.mp (ofJson?_eq_some_iff_read.mp hid)
  refine h ?_
  unfold Json.skip
  rw [hskip, List.head?_cons]

/-- From a string between blanks, the id is read whose text has its code units. -/
theorem ofJson?_spelled_iff (ps : List Piece) (hbefore : ∀ c ∈ before, isSpace c = true)
    (hafter : ∀ c ∈ after, isSpace c = true) :
    ofJson? (String.ofList (spelled before ps after)) = some id ↔
      id.text.toList.flatMap units = ps.flatMap Piece.codes := by
  rw [ofJson?_eq_some_iff_read, String.toList_ofList,
    Json.Literal.read_spelled ps hbefore hafter,
    Json.Literal.decode_eq_some_iff Json.Literal.lt_of_mem_codes]

/-- From a string between blanks, no id is read exactly if it has half of a pair. -/
theorem ofJson?_spelled_eq_none_iff (ps : List Piece) (hbefore : ∀ c ∈ before, isSpace c = true)
    (hafter : ∀ c ∈ after, isSpace c = true) :
    ofJson? (String.ofList (spelled before ps after)) = none ↔
      HasLoneHalf (ps.flatMap Piece.codes) := by
  unfold ofJson?
  rw [Option.map_eq_none_iff, String.toList_ofList, Json.Literal.read_spelled ps hbefore hafter,
    Json.Literal.decode_eq_none_iff Json.Literal.lt_of_mem_codes]

/-- A text from which an id is read is a string between blanks. -/
theorem exists_spelled_of_ofJson? (h : ofJson? t = some id) :
    ∃ before ps after, (∀ c ∈ before, isSpace c = true) ∧ (∀ c ∈ after, isSpace c = true) ∧
      t = String.ofList (spelled before ps after) := by
  obtain ⟨before, ps, after, hbefore, hafter, ht⟩ :=
    Json.Literal.exists_spelled_of_read (ofJson?_eq_some_iff_read.mp h)
  exact ⟨before, ps, after, hbefore, hafter, by rw [← ht, String.ofList_toList]⟩

/-! ## Writing -/

/-- What is written for an id is a string with its code units, without blanks. -/
theorem exists_spelled_toJson (id : ProductId) : ∃ ps : List Piece,
    id.toJson = String.ofList (spelled [] ps []) ∧
      ps.flatMap Piece.codes = id.text.toList.flatMap units := by
  obtain ⟨ps, hwrite, hunits⟩ := Json.Literal.exists_spelled_write id.text.toList
  refine ⟨ps, ?_, hunits⟩
  unfold toJson Json.quoted
  rw [hwrite]

/-- An id is read back from what is written for it. -/
theorem ofJson?_toJson (id : ProductId) : ofJson? id.toJson = some id := by
  unfold toJson Json.quoted
  rw [ofJson?_eq_some_iff_read, String.toList_ofList, Json.Literal.read_write]

/-- Different ids are written differently. -/
theorem toJson_injective : Function.Injective toJson := by
  intro id id' h
  have hback : some id = some id' := by rw [← ofJson?_toJson id, ← ofJson?_toJson id', h]
  exact Option.some.inj hback

/-- What is written for an id is a JSON string, which is read as this id and as no other id is
written. The texts from which an id is read are the JSON texts whose value is its string: the
strings between blanks, in any spelling by characters, short escapes and code units that are
together those of the id's text. Reading what is written for the id gives it again. Texts of other
values are refused, and of the strings those with half of a pair. -/
theorem json_round_trip :
    (∀ id : ProductId, Json.read id.toJson = some (.text id.text) ∧ ofJson? id.toJson = some id ∧
      ∃ ps, id.toJson = String.ofList (spelled [] ps []) ∧
        ps.flatMap Piece.codes = id.text.toList.flatMap units) ∧
    Function.Injective toJson ∧
    (∀ t id, ofJson? t = some id → ofJson? id.toJson = some id ∧
      ∃ before ps after, (∀ c ∈ before, isSpace c = true) ∧ (∀ c ∈ after, isSpace c = true) ∧
        t = String.ofList (spelled before ps after)) ∧
    (∀ before ps after, (∀ c ∈ before, isSpace c = true) → (∀ c ∈ after, isSpace c = true) →
      (∀ id, ofJson? (String.ofList (spelled before ps after)) = some id ↔
        id.text.toList.flatMap units = ps.flatMap Piece.codes) ∧
      (ofJson? (String.ofList (spelled before ps after)) = none ↔
        HasLoneHalf (ps.flatMap Piece.codes))) ∧
    (∀ t id, ofJson? t = some id ↔ Json.read t = some (.text id.text)) ∧
    (∀ t v, Json.read t = some v → (∀ s, v ≠ .text s) → ofJson? t = none) ∧
    (∀ t, (Json.skip t.toList).head? ≠ some '"' → ofJson? t = none) := by
  refine ⟨?_, toJson_injective, ?_, ?_, ?_, ?_, ?_⟩
  · intro id
    exact ⟨ofJson?_eq_some_iff.mp (ofJson?_toJson id), ofJson?_toJson id, exists_spelled_toJson id⟩
  · intro t id h
    exact ⟨ofJson?_toJson id, exists_spelled_of_ofJson? h⟩
  · intro before ps after hbefore hafter
    exact ⟨fun id => ofJson?_spelled_iff ps hbefore hafter,
      ofJson?_spelled_eq_none_iff ps hbefore hafter⟩
  · intro t id
    exact ofJson?_eq_some_iff
  · intro t v hread hv
    exact ofJson?_eq_none_of_ne hread hv
  · intro t h
    exact ofJson?_eq_none_of_head? h

/-- `U+1F600` may be spelled as itself or as its two halves, and is written as itself; a high half
with a letter behind it is refused. -/
theorem json_round_trip_of_pair :
    ofJson? " \"\\uD83D\\ude00\\/\\u0041\"\n" = some ⟨"😀/A"⟩ ∧
    ofJson? (toJson ⟨"😀/A"⟩) = some ⟨"😀/A"⟩ ∧ toJson ⟨"😀/A"⟩ = "\"😀/A\"" ∧
    ofJson? "\"\\uD83DA\"" = none ∧ ofJson? " [\"A\"]" = none := by
  obtain ⟨-, -, hback, hspelled, -, -, hhead⟩ := json_round_trip
  have hnone : ∀ c ∈ ([] : List Char), isSpace c = true := by simp
  have hspace : ∀ c ∈ [' '], isSpace c = true := List.forall_mem_singleton.mpr rfl
  have hline : ∀ c ∈ ['\n'], isSpace c = true := List.forall_mem_singleton.mpr rfl
  have hhigh : Json.Literal.unit? 'D' '8' '3' 'D' = some 0xD83D := rfl
  have hpair : ofJson? " \"\\uD83D\\ude00\\/\\u0041\"\n" = some ⟨"😀/A"⟩ := by
    have hlow : Json.Literal.unit? 'd' 'e' '0' '0' = some 0xDE00 := rfl
    have hletter : Json.Literal.unit? '0' '0' '4' '1' = some 0x41 := rfl
    have hslash : Json.Literal.short? '/' = some '/' := rfl
    exact ((hspelled [' '] [.unit _ _ _ _ _ hhigh, .unit _ _ _ _ _ hlow, .short _ _ hslash,
      .unit _ _ _ _ _ hletter] ['\n'] hspace hline).1 ⟨"😀/A"⟩).mpr rfl
  refine ⟨hpair, (hback _ _ hpair).1, by decide +kernel, ?_, hhead _ (by decide +kernel)⟩
  have hplain : 'A' ≠ '"' ∧ 'A' ≠ '\\' ∧ 0x20 ≤ 'A'.toNat := by decide
  refine ((hspelled [] [.unit _ _ _ _ _ hhigh, .plain 'A' hplain] [] hnone hnone).2).mpr ?_
  refine ⟨[], 0xD83D, [0x41], rfl, Or.inl ⟨rfl, fun m hm => ?_⟩⟩
  obtain rfl := Option.some.inj hm
  rfl

end Shortlist.ProductId
