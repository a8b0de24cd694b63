import Shortlist.Proofs.Exclusions.Excludable
import Shortlist.Proofs.Recommender.Passage
import Shortlist.Proofs.Service.Reply

/-!
# Sending back what was shown

A caller goes on by sending back the ids that it has been shown, next to what it excludes already.
If these ids can be named at all (`ProductId.Excludable`), the next reply has none of them. An id
that cannot be named is still listed and shown, and no request keeps it away. `excludes_exactly`
says both, for requests that are served one at a time and for those in flight together.
-/

namespace Shortlist

namespace Service

/-- A service that lists some products live and shows up to `count` of them. -/
def showing (items : List CatalogItem) (count : Nat) :
    Service Http.Unreachable CatalogPeer.Scripted Random.Fixed Random.Fixed where
  gate := .table .empty
  cacheFlag := ""
  cache := .new {} {}
  catalog :=
    { address := { text := "unix:/catalog", place := .socket "/catalog" }
      timeout := { secs := 1, nanos := 0 }
      peer := { ends := [.products items] } }
  selector := { count, source := {} }

theorem showing_nextEnd (items : List CatalogItem) (count : Nat) :
    (showing items count).catalog.nextEnd = .products items := rfl

variable {ν κ σ τ : Type} [Http.Peer ν] [CatalogPeer κ] [RandomSource σ] [RandomSource τ]
  {s : Service ν κ σ τ} {user : String} {raws texts : List String}

/-- No reply shows what its request excludes. -/
theorem not_mem_of_excluded {exclude : ProductSet} (h : (s.list user raws).1 = some (.ok texts))
    (hread : Exclusions.parse raws = .ok exclude) {id : ProductId} (hid : id ∈ exclude) :
    id.text ∉ texts := by
  obtain ⟨products, hanswer, rfl⟩ := list_eq_ok_iff.mp h
  obtain ⟨exclude', hread', hnot⟩ := Recommender.list_excludes hanswer
  obtain rfl := Except.ok.inj (hread.symm.trans hread')
  intro htext
  obtain ⟨⟨text⟩, hmem, rfl⟩ := List.mem_map.mp htext
  exact hnot _ hmem hid

/-- A live reply with room for the whole listing shows an id of it, unless its request excludes
it. -/
theorem shows_of_live {items : List CatalogItem} {id : ProductId} (hτ : RandomSource.Contract τ)
    (live : s.nextMode = .disabled) (listed : s.catalog.nextEnd = .products items)
    (hid : id ∈ CatalogItem.ids items)
    (room : (CatalogItem.ids items).toFinset.card ≤ s.selector.count)
    (accepted : ¬ Exclusions.Malformed raws)
    (hnot : ∀ exclude, Exclusions.parse raws = .ok exclude → id ∉ exclude) :
    ∃ texts, (s.list user raws).1 = some (.ok texts) ∧ id.text ∈ texts := by
  have hcall : (Catalog.call s.catalog).1 = some (.ok (CatalogItem.ids items)) := by
    rw [RemoteCatalog.call_fst, listed]
    rfl
  obtain ⟨exclude, products, hread, hanswer, hmem⟩ :=
    Recommender.list_of_live hτ accepted live hcall room user
  refine ⟨response products, list_eq_ok_iff.mpr ⟨products, hanswer, rfl⟩, ?_⟩
  exact List.mem_map.mpr ⟨id, (hmem id).mpr ⟨hid, hnot exclude hread⟩, rfl⟩

end Service

/-- Which ids a caller can exclude. An id is in what some accepted request excludes exactly if it is
not empty, has no blank at either end, no comma and no control character, and is short enough; and
then its own text excludes it and nothing else.

So let the ids that a reply has shown be of this form, and send them back with an accepted request:
each in an element of its own, or joined by commas, with each other or with elements of the request,
and in any order. Then the request is accepted too and excludes just what it did and these ids; and
if it is answered with products, by the service or while others are in flight, none of these ids is
among them.

An id of any other form is excluded by no request. A service that lists it live and has room for
what it lists shows it in reply to every accepted request, and for every such id there is one. -/
theorem excludes_exactly {γ ν κ σ τ : Type} [FlagGate γ] [Http.Peer ν] [CatalogPeer κ]
    [RandomSource σ] [RandomSource τ] :
    (∀ id : ProductId,
      ((∃ raws seen, Exclusions.parse raws = .ok seen ∧ id ∈ seen) ↔ id.Excludable) ∧
      (id.Excludable → Exclusions.parse [id.text] = .ok (.ofList [id]))) ∧
    (∀ (raws : List String) (seen : ProductSet) (shown : List ProductId)
        (groups : List (List String)),
      Exclusions.parse raws = .ok seen → (∀ id ∈ shown, id.Excludable) →
      groups.flatten.Perm (raws ++ Service.response shown) →
      (∃ sent, Exclusions.parse (groups.map Exclusions.joined) = .ok sent ∧
        ∀ id, id ∈ sent ↔ id ∈ seen ∨ id ∈ shown) ∧
      (∀ (s : Service ν κ σ τ) (user : String) (texts : List String),
        (s.list user (groups.map Exclusions.joined)).1 = some (.ok texts) →
        ∀ id ∈ shown, id.text ∉ texts) ∧
      (∀ (gate : γ) (cacheFlag : String) (config : CacheConfig) (source : σ) (catalog : String)
          (selector : Selector τ) (earlier later : List Reception.Event)
          (r₁ r₂ : Reception γ σ τ) (user : String) (products : List ProductId),
        (Reception.new gate cacheFlag (Desk.new config source catalog) selector).run earlier =
          some r₁ →
        r₁.run (.come user (groups.map Exclusions.joined) :: later) = some r₂ →
        r₂.result? r₁.came = some (.ok products) →
        ∀ id ∈ shown, id ∉ products)) ∧
    (∀ id : ProductId, ¬ id.Excludable →
      (∀ raws seen, Exclusions.parse raws = .ok seen → id ∉ seen) ∧
      (∀ (s : Service ν κ σ τ) (items : List CatalogItem), RandomSource.Contract τ →
        s.nextMode = .disabled → s.catalog.nextEnd = .products items →
        id ∈ CatalogItem.ids items →
        (CatalogItem.ids items).toFinset.card ≤ s.selector.count →
        ∀ user raws, ¬ Exclusions.Malformed raws →
          ∃ texts, (s.list user raws).1 = some (.ok texts) ∧ id.text ∈ texts) ∧
      (∀ user raws, ¬ Exclusions.Malformed raws →
        ∃ texts, ((Service.showing [⟨id.text, ""⟩] 5).list user raws).1 = some (.ok texts) ∧
          id.text ∈ texts)) := by
  refine ⟨?_, ?_, ?_⟩
  · exact fun id => ⟨Exclusions.excludable_iff, Exclusions.parse_text⟩
  · intro raws seen shown groups haccepted hshown hresent
    obtain ⟨sent, hsent, hmem⟩ := Exclusions.parse_resent haccepted hshown hresent
    refine ⟨⟨sent, hsent, hmem⟩, ?_, ?_⟩
    · intro s user texts hreply id hid
      exact Service.not_mem_of_excluded hreply hsent ((hmem id).mpr (Or.inr hid))
    · intro gate cacheFlag config source catalog selector earlier later r₁ r₂ user products
        h₁ h₂ hanswer id hid hproduct
      obtain ⟨exclude, hread, hnot⟩ := Reception.run_come_excludes h₁ h₂ hanswer
      obtain rfl := Except.ok.inj (hsent.symm.trans hread)
      exact hnot id hproduct ((hmem id).mpr (Or.inr hid))
  · intro id hid
    have hnever : ∀ raws seen, Exclusions.parse raws = .ok seen → id ∉ seen :=
      fun raws seen hread hmem => hid (Exclusions.excludable_iff.mp ⟨raws, seen, hread, hmem⟩)
    refine ⟨hnever, ?_, ?_⟩
    · intro s items hτ live listed hlisted room user raws haccepted
      exact Service.shows_of_live hτ live listed hlisted room haccepted (hnever raws)
    · intro user raws haccepted
      have hlisted : id ∈ CatalogItem.ids [⟨id.text, ""⟩] := List.mem_singleton_self id
      have hroom : (CatalogItem.ids [⟨id.text, ""⟩]).toFinset.card ≤ 5 := by
        simp [CatalogItem.ids]
      exact Service.shows_of_live Random.Fixed.contract rfl (Service.showing_nextEnd _ _)
        hlisted hroom haccepted (hnever raws)

/-- An id with blanks inside and one that is not ASCII are sent back with a request, in two
elements; an id with a comma is shown although the request names its parts. -/
theorem excludes_exactly_of_comma :
    (∃ sent, Exclusions.parse ["x, y,p 1", "é"] = .ok sent ∧
      (⟨"x"⟩ : ProductId) ∈ sent ∧ (⟨"p 1"⟩ : ProductId) ∈ sent ∧ (⟨"é"⟩ : ProductId) ∈ sent) ∧
    (∀ texts, ((Service.showing [⟨"p 1", ""⟩, ⟨"z", ""⟩] 5).list "ann" ["x, y,p 1", "é"]).1 =
      some (.ok texts) → "p 1" ∉ texts) ∧
    (∃ texts, ((Service.showing [⟨"a,b", ""⟩, ⟨"a", ""⟩] 2).list "ann" ["a,b"]).1 =
      some (.ok texts) ∧ "a,b" ∈ texts) := by
  obtain ⟨hforms, hresent, hnever⟩ := @excludes_exactly FlagTable Http.Unreachable
    CatalogPeer.Scripted Random.Fixed Random.Fixed _ _ _ _ _
  obtain ⟨seen, hseen, hmem⟩ := Exclusions.parse_of_not_malformed
    (show ¬ Exclusions.Malformed ["x, y"] by decide +kernel)
  have hx : (⟨"x"⟩ : ProductId) ∈ seen := (hmem _).mpr (by decide +kernel)
  obtain ⟨⟨sent, hsent, hsets⟩, hreply, -⟩ :=
    hresent ["x, y"] seen [⟨"p 1"⟩, ⟨"é"⟩] [["x, y", "p 1"], ["é"]] hseen
      (by decide +kernel) (List.Perm.refl _)
  obtain ⟨-, hshows, -⟩ := hnever ⟨"a,b"⟩ (by decide +kernel)
  have hgroups : [["x, y", "p 1"], ["é"]].map Exclusions.joined = ["x, y,p 1", "é"] := by
    decide +kernel
  rw [hgroups] at hsent hreply
  refine ⟨⟨sent, hsent, ?_, ?_, ?_⟩, ?_, ?_⟩
  · exact (hsets _).mpr (Or.inl hx)
  · exact (hsets _).mpr (Or.inr (by simp))
  · exact (hsets _).mpr (Or.inr (by simp))
  · exact fun texts h => hreply _ "ann" texts h ⟨"p 1"⟩ (by simp)
  · exact hshows (Service.showing [⟨"a,b", ""⟩, ⟨"a", ""⟩] 2) [⟨"a,b", ""⟩, ⟨"a", ""⟩]
      Random.Fixed.contract rfl (Service.showing_nextEnd _ _) (by decide) (by decide) "ann" ["a,b"]
      (by decide +kernel)

end Shortlist
