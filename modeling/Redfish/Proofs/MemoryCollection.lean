import Redfish.Proofs.Json.Preserved
import Redfish.Proofs.MemoryListing
import Redfish.Proofs.Update.Attachment

/-!
# Collections held by a service in memory

The document of a collection is what is written for a record of it, so the page that is read is that
record, whatever texts its members have. It links to no other page, and the walk over it is one GET.
-/

namespace Redfish

open Json SteadyTransport

namespace Link

theorem preserves {depth : Nat} (l : Link) : Codec.Preserves (depth + 1) l := by
  apply Record.preserves
  simp only [Record.members, List.forall_mem_singleton]
  exact Member.preserves_always (Codec.preserves_text _)

end Link

namespace Collection

theorem preserves (c : Collection) : Codec.Preserves 3 c := by
  apply Record.preserves
  simp only [Record.members, List.forall_mem_cons]
  refine ⟨?_, ?_, ?_, ?_, ?_, nofun⟩
  · exact Member.preserves_always (Codec.preserves_text _)
  · exact Member.preserves_always (Codec.preserves_text _)
  · exact Member.preserves_always (Codec.Preserves.list fun l _ => l.preserves)
  · exact Member.preserves_optional Codec.preserves_uint64 rfl
  · exact Member.preserves_optional Codec.preserves_text rfl

theorem ofBytes_render (c : Collection) : ofBytes (Record.encode c).render = .ok c :=
  c.preserves.run_render (by decide)

end Collection

def Collection.ofMembers (uri : String) (members : List String) : Collection :=
  ⟨uri, "Collection", members.map Link.mk, some (UInt64.ofNat members.length), none⟩

theorem Collection.memberUris_ofMembers (uri : String) (members : List String) :
    (ofMembers uri members).memberUris = members := by
  unfold memberUris ofMembers
  rw [List.map_map]
  exact List.map_id members

theorem MemoryService.collectionDocument_eq (uri : String) (members : List String) :
    collectionDocument uri members = Record.encode (Collection.ofMembers uri members) := by
  have hLinks : (members.map fun m => Value.object [("@odata.id", .text m)]) =
      (members.map Link.mk).map Codec.encode := by
    rw [List.map_map]
    rfl
  have hWritten : Record.written (Collection.ofMembers uri members) = [
        ("@odata.id", .text uri),
        ("Name", .text "Collection"),
        ("Members", .array ((members.map Link.mk).map Codec.encode)),
        ("Members@odata.count", Codec.encode (UInt64.ofNat members.length))] := rfl
  have hNames : ["@odata.id", "Name", "Members@odata.count", "Members"].Nodup := by decide
  unfold collectionDocument Record.encode
  rw [hLinks, hWritten]
  -- The service puts the count before the members, a record of the page after them.
  exact congrArg Value.object (Table.ofList_perm (.cons _ (.cons _ (.swap _ _ _))) hNames)

theorem tally_of_forall_ok {P : String → α → Prop} {uris : List String}
    {result : String → Except Error α} (h : ∀ uri ∈ uris, ∃ a, result uri = .ok a ∧ P uri a) :
    ∃ items, tally uris result = (items, FailureReport.empty) ∧ List.Forall₂ P uris items := by
  induction uris with
  | nil => exact ⟨[], rfl, .nil⟩
  | cons uri uris ih =>
    obtain ⟨⟨a, ha, hFirst⟩, hRest⟩ := List.forall_mem_cons.mp h
    obtain ⟨items, hTally, hItems⟩ := ih hRest
    refine ⟨a :: items, ?_, .cons hFirst hItems⟩
    rw [tally_cons, ha, hTally]

namespace MemoryService

/-- The service answers a GET of the URI with this document. -/
structure Serves (s : MemoryService) (uri : String) (document : Bytes) : Prop where
  admits : s.refusals.lookup uri = none
  holds : s.documents.lookup uri = some document

theorem Serves.answer_eq {s : MemoryService} {uri : String} {document : Bytes}
    (h : s.Serves uri document) : SteadyTransport.answer s uri = .ok (.plain .ok document) := by
  change s.answer ⟨.get, uri, [], none⟩ = _
  unfold MemoryService.answer
  rw [h.admits, h.holds]
  rfl

theorem Serves.page_eq {s : MemoryService} {uri : String} {c : Collection}
    (h : s.Serves uri (Record.encode c).render) : page s uri = .ok c := by
  unfold page
  rw [h.answer_eq]
  exact mapError_eq_ok_iff.mpr c.ofBytes_render

theorem Serves.object_eq [Resource α] {s : MemoryService} {uri : String} {document : Bytes} {a : α}
    (h : s.Serves uri document) (hRead : Resource.ofBytes document = .ok a) :
    object s uri = .ok (Resource.attach uri document a) := by
  unfold object
  rw [h.answer_eq]
  exact map_eq_ok_iff.mpr ⟨a, mapError_eq_ok_iff.mpr hRead, rfl⟩

theorem lookup_insert (uri : String) (document : Bytes) (s : MemoryService) :
    (s.insert uri document).documents.lookup uri = some document := by
  simp [insert]

end MemoryService

theorem Resource.raw_attach [Resource α] [LawfulResource α] (uri : String) (document : Bytes) (a : α) :
    (Resource.entity (Resource.attach uri document a)).raw = document := by
  unfold Resource.attach
  rw [LawfulResource.entity_withEntity]
  rfl

/-- An inserted collection is read back with one GET: its members are those that were put in, whatever
texts they are, in their order. When each of them serves a document that is read as a resource, a listing
has one resource for each place in the list, with the bytes that were served there. -/
theorem inserted_collection_is_read_back {service : MemoryService} {uri : String}
    (hAdmits : service.refusals.lookup uri = none) (members : List String) :
    let held := service.insertCollection uri members
    getCollection uri held = some (.ok members, held.got [uri]) ∧
    ∀ later : MemoryService, later.refusals.lookup uri = none →
      later.documents.lookup uri = held.documents.lookup uri → uri ≠ "" →
      ∀ (α : Type) [Resource α] [LawfulResource α],
        (∀ m ∈ members, ∃ document a, later.Serves m document ∧
          (Resource.ofBytes document : Except Fault α) = .ok a) →
        ∃ items, (listReferenced uri : Listing MemoryService α (List α)) later =
            some (.ok items, later.got (uri :: members)) ∧
          List.Forall₂ (fun m item => ∃ document a, later.Serves m document ∧
            Resource.ofBytes document = .ok a ∧ item = Resource.attach m document a ∧
            (Resource.entity item).raw = document) members items := by
  intro held
  have hDocument : held.documents.lookup uri =
      some (Record.encode (Collection.ofMembers uri members)).render := by
    rw [← MemoryService.collectionDocument_eq]
    exact service.lookup_insert uri _
  have hMembers := Collection.memberUris_ofMembers uri members
  refine ⟨?_, ?_⟩
  · have hServes : held.Serves uri _ := ⟨hAdmits, hDocument⟩
    rw [getCollection_of_page hServes.page_eq rfl, hMembers]
    rfl
  · intro later hLater hKept hUri α _ _ hReads
    have hServes : later.Serves uri _ := ⟨hLater, hKept.trans hDocument⟩
    have hItems : ∀ m ∈ members, ∃ item : α, object later m = .ok item ∧
        ∃ document a, later.Serves m document ∧ Resource.ofBytes document = .ok a ∧
          item = Resource.attach m document a ∧ (Resource.entity item).raw = document := by
      intro m hm
      obtain ⟨document, a, hServed, hRead⟩ := hReads m hm
      refine ⟨_, hServed.object_eq hRead, document, a, hServed, hRead, rfl, ?_⟩
      exact Resource.raw_attach m document a
    obtain ⟨items, hTally, hForall⟩ := tally_of_forall_ok hItems
    refine ⟨items, ?_, hForall⟩
    rw [listReferenced_of_page hUri hServes.page_eq rfl, hMembers, hTally]
    rfl

theorem strange_members_are_read_back :
    let first := Bytes.ofText "\x7b\x7d"
    let second := Bytes.ofText "\x7b\"Id\":\"1\"\x7d"
    let members := ["", "/a\"\u0001é", "/b", "/b"]
    let service := ((MemoryService.empty.insert "" first).insert "/a\"\u0001é" first).insert "/b" second
    let held := service.insertCollection "/c" members
    getCollection "/c" held = some (.ok members, held.got ["/c"]) ∧
    ∃ items, (listReferenced "/c" : Listing MemoryService Sensor (List Sensor)) held =
        some (.ok items, held.got ("/c" :: members)) ∧
      items.map (·.entity.raw) = [first, first, second, second] := by
  intro first second members service held
  have hReads : ∀ m ∈ members, ∃ document a, held.Serves m document ∧
      (Resource.ofBytes document : Except Fault Sensor) = .ok a := by
    simp only [members, List.forall_mem_cons]
    refine ⟨?_, ?_, ?_, ?_, nofun⟩
    · exact ⟨first, _, ⟨rfl, rfl⟩, rfl⟩
    · exact ⟨first, _, ⟨rfl, rfl⟩, rfl⟩
    · exact ⟨second, _, ⟨rfl, rfl⟩, rfl⟩
    · exact ⟨second, _, ⟨rfl, rfl⟩, rfl⟩
  have hAdmits : service.refusals.lookup "/c" = none := rfl
  obtain ⟨hGet, hList⟩ := inserted_collection_is_read_back hAdmits members
  obtain ⟨items, hRun, hItems⟩ := hList held rfl rfl (by decide) Sensor hReads
  have hRaw : items.map (fun item => some item.entity.raw) = members.map fun m => held.documents.lookup m := by
    clear hReads hGet hList hRun
    clear_value held members
    induction hItems with
    | nil => rfl
    | cons hItem _ ih =>
      obtain ⟨document, a, hServed, _, _, rfl⟩ := hItem
      rw [List.map_cons, List.map_cons, ih, hServed.holds]
      rfl
  refine ⟨hGet, items, hRun, ?_⟩
  apply List.map_injective_iff.mpr (Option.some_injective Bytes)
  rw [List.map_map]
  exact hRaw

end Redfish
