import Redfish.MemoryService
import Redfish.Proofs.Listing
import Redfish.Proofs.Table

/-!
# Listing what a service in memory holds

Every page that is read from such a service is one of its documents. So the walk over a collection ends,
whatever the documents link to, and asks for at most one URI more than there are documents.
-/

namespace Redfish

open SteadyTransport

namespace MemoryService

def got (uris : List String) (s : MemoryService) : MemoryService :=
  { s with received := s.received ++ uris.map fun uri => ⟨.get, uri, [], none⟩ }

instance : SteadyTransport MemoryService where
  answer s uri := s.answer ⟨.get, uri, [], none⟩
  asked := got
  get_run _ _ := rfl
  asked_nil s := by simp [got]
  asked_append us vs s := by simp [got]
  answer_asked _ _ := rfl

theorem mem_documents_of_answer {s : MemoryService} {r : ReceivedRequest} {response : Response}
    (h : s.answer r = .ok response) : r.uri ∈ s.documents.map (·.1) := by
  unfold answer at h
  split at h
  · cases h
  · split at h
    · cases h
    · rename_i document hFound
      exact List.mem_map.mpr ⟨(r.uri, document), Table.mem_of_get? hFound, rfl⟩

theorem mem_documents_of_getPage {s s' : MemoryService} {uri : String} {c : Collection}
    (h : (getPage uri : Call MemoryService Collection) s = (.ok c, s')) :
    uri ∈ s.documents.map (·.1) ∧ s'.documents = s.documents := by
  rw [getPage_eq] at h
  obtain ⟨hPage, rfl⟩ := Prod.mk.inj h
  obtain ⟨response, hAnswer, _⟩ := bind_eq_ok_iff.mp hPage
  exact ⟨mem_documents_of_answer hAnswer, rfl⟩

theorem walk_ends (uri : String) (s : MemoryService) :
    ∃ pages last result, walkPages uri [] uri s = some (result, s.got (asksFor pages last)) ∧
      (asksFor pages last).Nodup ∧ pages.length ≤ s.documents.length := by
  have hKeys : ∀ (t : MemoryService) uri c t', t.documents = s.documents →
      (getPage uri : Call MemoryService Collection) t = (.ok c, t') →
      uri ∈ s.documents.map (·.1) ∧ t'.documents = s.documents := by
    intro t uri c t' hDocuments hPage
    rw [← hDocuments]
    exact mem_documents_of_getPage hPage
  have hEnds : (walkPages uri [] uri s).isSome = true :=
    walkPages_isSome hKeys rfl List.not_mem_nil
  obtain ⟨⟨result, s'⟩, hWalk⟩ := Option.isSome_iff_exists.mp hEnds
  obtain ⟨pages, last, hPages⟩ := walk_of_walkPages List.not_mem_nil hWalk
  obtain ⟨s₁, answer, hLeads, hLast, _⟩ := hPages.ends
  refine ⟨pages, last, result, ?_, hPages.unmet.nodup, ?_⟩
  · obtain ⟨rfl, _⟩ := hLeads.steady
    rw [pageFetch_iff, getPage_eq] at hLast
    obtain ⟨_, rfl⟩ := Prod.mk.inj hLast
    rw [hWalk, ← asked_append]
    rfl
  · have hLe := hLeads.length_le hKeys rfl hPages.unmet.nodup
    rw [List.length_map] at hLe
    exact hLe

end MemoryService

/-- However the documents of a service in memory link to each other, the walk over a collection ends. It
asks for no URI twice and for at most one more than there are documents. A listing asks for these, and
then once for each member. -/
theorem getCollection_asks_for_few_pages (uri : String) (s : MemoryService) :
    ∃ us result, getCollection uri s = some (result, s.got us) ∧
      us.Nodup ∧ us.length ≤ s.documents.length + 1 ∧
      ∀ (α : Type) [Resource α], ∃ listed,
        (listReferenced uri : Listing MemoryService α (List α)) s = some (listed,
          if uri = "" then s
          else match result with
            | .error _ => s.got us
            | .ok members => s.got (us ++ members)) := by
  obtain ⟨pages, last, result, hWalk, hNodup, hLength⟩ := s.walk_ends uri
  refine ⟨asksFor pages last, result, hWalk, hNodup, ?_, ?_⟩
  · simp [asksFor, hLength]
  · intro α _
    split
    · rename_i hEmpty
      rw [hEmpty]
      exact ⟨_, rfl⟩
    · rename_i hLink
      rw [listReferenced_run hLink, getCollection, hWalk]
      cases result with
      | error e => exact ⟨_, rfl⟩
      | ok members =>
        have hAsked : s.got (asksFor pages last ++ members) = (s.got (asksFor pages last)).got members :=
          asked_append (asksFor pages last) members s
        dsimp only
        rw [fetchMembers_steady, hAsked]
        exact ⟨_, rfl⟩

end Redfish
