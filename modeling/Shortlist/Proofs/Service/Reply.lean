import Shortlist.Proofs.Recommender.Listing
import Shortlist.Service

/-!
# Replies of the service

A reply is what an answer of the recommender is sent as: the texts of its products, or the status of
its fault. The end of a catalog call decides the code of a reply that needs it
(`code_reply_listing`).
-/

namespace Shortlist

/-- The code that a call's end leads to. -/
def CallEnd.code : CallEnd → Code
  | products _ => .ok
  | status _ => .unavailable
  | outlived => .deadlineExceeded

theorem Catalog.call_mk {κ : Type} (name : κ → String) (call : κ → Option Listing × κ) (c : κ) :
    @Catalog.call κ ⟨name, call⟩ c = call c := rfl

namespace RemoteCatalog

variable {κ : Type} [CatalogPeer κ]

/-- How the next call ends; one that may take no time is not answered in it. -/
def nextEnd (c : RemoteCatalog κ) : CallEnd :=
  if c.timeout.toNanos = 0 then .outlived
  else (CatalogPeer.call c.peer c.address.place).1

/-- A call of the catalog is a call to its service, and always comes back. -/
theorem catalog_call {c : RemoteCatalog κ} {called : Listing × RemoteCatalog κ}
    (h : c.call = called) : Catalog.call c = (some called.1, called.2) := by
  -- The instance is opened by rewriting: to compute with it is to compute with the timeout.
  rw [instCatalogOfCatalogPeer, Catalog.call_mk, h]

/-- It brings what the call's end brings. -/
theorem call_fst (c : RemoteCatalog κ) :
    (Catalog.call c).1 = some (c.nextEnd.listing c.timeout) := by
  have hcall : c.call.1 = c.nextEnd.listing c.timeout := by
    unfold call nextEnd
    by_cases h : c.timeout.toNanos = 0
    · rw [if_pos h, if_pos h]
    · rw [if_neg h, if_neg h]
  rw [catalog_call rfl, hcall]

end RemoteCatalog

namespace Service

/-- What an answer is sent as. -/
def reply (a : Answer) : Except Status (List String) := (a.mapError Status.ofFault).map response

/-- The code of a reply. -/
def code : Except Status (List String) → Code
  | .ok _ => .ok
  | .error status => status.code

/-- What a call brings is sent with the code of its end. -/
theorem code_reply_listing (e : CallEnd) (timeout : Duration) :
    code (reply (e.listing timeout)) = e.code := by
  cases e <;> rfl

variable {ν κ σ τ : Type} [Http.Peer ν] [CatalogPeer κ] [RandomSource σ] [RandomSource τ]

theorem list_fst (s : Service ν κ σ τ) (user : String) (raws : List String) :
    (s.list user raws).1 = (Recommender.list s user raws).1.map reply := rfl

theorem list_snd (s : Service ν κ σ τ) (user : String) (raws : List String) :
    (s.list user raws).2 = (Recommender.list s user raws).2 := rfl

/-- A good reply holds the texts of the products of an answer. -/
theorem list_eq_ok_iff {s : Service ν κ σ τ} {user : String} {raws texts : List String} :
    (s.list user raws).1 = some (.ok texts) ↔
      ∃ products, (Recommender.list s user raws).1 = some (.ok products) ∧
        response products = texts := by
  rw [list_fst]
  rcases (Recommender.list s user raws).1 with _ | fault | products <;>
    simp [reply, Except.map, Except.mapError]

end Service

end Shortlist
