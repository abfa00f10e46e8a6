import Redfish.Proofs.SteadyTransport
import Redfish.Proofs.Update.Amendment
import Redfish.Proofs.Update.Request

/-!
# The condition of an update

A service may give every version of its documents a tag of its own. A resource read from a version holds
both the tag and the bytes of that version, and an edit that leaves the identity alone changes neither.
So the condition that an update sends names the version that its delta was computed from.
-/

namespace Redfish

open Json

structure Version where
  body : Bytes
  tag : String
  deriving DecidableEq, Repr

/-- The document carries the tag, which is visible text. -/
structure Version.IsTagged (v : Version) : Prop where
  visible : (Bytes.ofText v.tag).all Http.HeaderValue.isVisible = true
  carried : ∃ ms close rest t, Outline.read v.body = (.object ms close, rest) ∧
    Members.find? "@odata.etag" ms = some (.text t) ∧ t.content = .ok v.tag

theorem Version.IsTagged.ofText? {v : Version} (h : v.IsTagged) :
    Http.HeaderValue.ofText? v.tag = some ⟨Bytes.ofText v.tag, false⟩ := by
  refine if_pos ?_
  rw [List.all_eq_true]
  intro b hb
  have hVisible := List.all_eq_true.mp h.visible b hb
  unfold Http.HeaderValue.isVisible at hVisible
  unfold Http.HeaderValue.isAllowed
  simp only [Bool.or_eq_true, Bool.and_eq_true, decide_eq_true_eq] at hVisible ⊢
  refine hVisible.imp_right fun hRange => ⟨hRange.1, ?_⟩
  rw [bne_iff_ne]
  rintro rfl
  exact absurd hRange.2 (by decide)

theorem Version.IsTagged.condition {v : Version} (h : v.IsTagged) :
    ((some v.tag).bind Http.HeaderValue.ofText?).bind Http.HeaderValue.text? = some v.tag := by
  rw [Option.bind_some, h.ofText?, Option.bind_some]
  exact (if_pos h.visible).trans (Bytes.text?_ofText v.tag)

section

variable [Updatable α] [LawfulUpdatable α]

theorem Version.IsTagged.entity {v : Version} (h : v.IsTagged) {a : α}
    (hRead : Resource.ofBytes v.body = .ok a) :
    (Resource.entity a).etag = some v.tag ∧ (Resource.entity a).matchesEtag = true := by
  obtain ⟨ms, close, rest, t, hOutline, hFound, hContent⟩ := h.carried
  have hDecode := Decoder.decode_of_run hRead
  rw [hOutline] at hDecode
  obtain ⟨b, e, _, _, hEntity, rfl⟩ :=
    (Resource.decode_object_iff (rfl : deeper Decoder.levels = .ok 127)).mp hDecode
  rw [LawfulUpdatable.entity_withEntity]
  constructor
  · have hGet : t.content.map some = .ok e.etag := Record.decode_of_absorb Entity.independent hEntity
      (.tail _ (.tail _ (.head _)) : _ ∈ Record.members (α := Entity)) hFound
    rw [hContent] at hGet
    exact (Except.ok.inj hGet).symm
  · exact Record.absorb_preserves Entity.matchesEtag_set hEntity rfl

end

def Response.read [Resource α] (uri : String) (response : Response) : Except Error α :=
  ((getObject uri : Call FixedService α) ⟨fun _ _ => .ok response, []⟩).1

/-- The requests that an update makes. -/
def requestsOf [Updatable α] (a : α) : List ReceivedRequest :=
  ((update a : Call MemoryService Unit) .empty).2.received

theorem requestsOf_eq [Updatable α] [LawfulUpdatable α] {current baseline : α} {body : Bytes}
    (hHolds : (Resource.entity current).Holds body)
    (hRead : Resource.ofBytes body = .ok baseline)
    (hTag : ∀ tag, (Resource.entity current).ifMatch = some tag →
      (Http.HeaderValue.ofText? tag).isSome = true) :
    requestsOf current = if difference baseline current = [] then []
      else [.ofDelta (Resource.entity current) (difference baseline current)] := by
  unfold requestsOf
  split
  · rename_i hNil
    rw [update_of_unchanged (hNil ▸ pendingChanges_eq hHolds hRead)]
    rfl
  · rename_i hChanged
    rw [update_memory hHolds hRead hChanged hTag]
    rfl

structure Held where
  type : WritableType
  value : type.Carrier

namespace Held

/-- The resource was read from the version, and its identity was left alone. -/
structure IsOf (r : Held) (v : Version) : Prop where
  holds : (Resource.entity r.value).Holds v.body
  etag : (Resource.entity r.value).etag = some v.tag
  matchesEtag : (Resource.entity r.value).matchesEtag = true
  readable : ∃ baseline : r.type.Carrier, Resource.ofBytes v.body = .ok baseline

variable {r : Held} {v : Version}

theorem isOf_of_read {t : WritableType} {a : t.Carrier} {uri : String} {response : Response}
    (hTagged : v.IsTagged) (hBody : response.body = v.body) (h : response.read uri = .ok a) :
    IsOf ⟨t, a⟩ v := by
  unfold Response.read at h
  rw [SteadyTransport.getObject_eq] at h
  obtain ⟨baseline, hRead, rfl⟩ := map_eq_ok_iff.mp h
  have hBaseline := mapError_eq_ok_iff.mp hRead
  rw [hBody] at hBaseline
  obtain ⟨hEtag, hMatches⟩ := hTagged.entity hBaseline
  have hEntity : Resource.entity (Resource.attach uri response.body baseline) =
      (Resource.entity baseline).attach uri response.body :=
    LawfulUpdatable.entity_withEntity _ _
  refine ⟨?_, ?_, ?_, baseline, hBaseline⟩
  · rw [hEntity, ← hBody]
    exact Entity.holds_attach uri _ _
  · rw [hEntity]
    exact hEtag
  · rw [hEntity]
    exact hMatches

theorem IsOf.unique {w : Version} (hv : r.IsOf v) (hw : r.IsOf w) : v = w := by
  have hBody := hv.holds.raw.symm.trans hw.holds.raw
  have hTag := Option.some.inj (hv.etag.symm.trans hw.etag)
  cases v
  cases w
  rw [Version.mk.injEq]
  exact ⟨hBody, hTag⟩

theorem IsOf.edited {a : r.type.Carrier} (h : r.IsOf v)
    (hEntity : Resource.entity a = Resource.entity r.value) : IsOf ⟨r.type, a⟩ v where
  holds := hEntity ▸ h.holds
  etag := hEntity ▸ h.etag
  matchesEtag := hEntity ▸ h.matchesEtag
  readable := h.readable

/-- What a resource sends was computed from the version it was read from, and the condition says so. -/
theorem IsOf.request (h : r.IsOf v) (hTagged : v.IsTagged) {request : ReceivedRequest}
    (hSent : request ∈ requestsOf r.value) :
    request.ifMatch = some v.tag ∧ ∃ baseline : r.type.Carrier,
      Resource.ofBytes v.body = .ok baseline ∧
      request = .ofDelta (Resource.entity r.value) (difference baseline r.value) := by
  obtain ⟨baseline, hRead⟩ := h.readable
  have hIfMatch : (Resource.entity r.value).ifMatch = some v.tag :=
    (if_pos h.matchesEtag).trans h.etag
  have hLegal : ∀ tag, (Resource.entity r.value).ifMatch = some tag →
      (Http.HeaderValue.ofText? tag).isSome = true := by
    intro tag hTag
    obtain rfl := Option.some.inj (hIfMatch.symm.trans hTag)
    rw [hTagged.ofText?]
    rfl
  rw [requestsOf_eq h.holds hRead hLegal] at hSent
  split at hSent
  · cases hSent
  · obtain rfl := List.mem_singleton.mp hSent
    refine ⟨?_, baseline, hRead, rfl⟩
    change ((Resource.entity r.value).ifMatch.bind _).bind _ = _
    rw [hIfMatch]
    exact hTagged.condition

end Held

end Redfish
