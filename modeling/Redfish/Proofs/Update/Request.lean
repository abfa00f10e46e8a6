import Redfish.MemoryService
import Redfish.Proofs.Update.Delta

/-!
# Requests to a service in memory

A fetch gives the document of the service. An update that has something to send is one request to the
URI of the resource, with the delta for a body and the entity tag for a condition.
-/

namespace Redfish

open Json

theorem getObject_memory [Resource α] {uri : String} {service service' : MemoryService} {a : α}
    (h : (getObject uri : Call MemoryService α) service = (.ok a, service')) :
    ∃ body read, service.documents.lookup uri = some body ∧ Resource.ofBytes body = .ok read ∧
      a = Resource.attach uri body read := by
  rw [getObject_run] at h
  obtain ⟨response, hAnswer, hResult⟩ := bind_eq_ok_iff.mp (Prod.mk.inj h).1
  obtain ⟨read, hRead, rfl⟩ := map_eq_ok_iff.mp hResult
  change service.answer ⟨.get, uri, [], none⟩ = .ok response at hAnswer
  unfold MemoryService.answer at hAnswer
  split at hAnswer
  · cases hAnswer
  · split at hAnswer
    · cases hAnswer
    · rename_i body hBody
      cases hAnswer
      exact ⟨body, read, hBody, mapError_eq_ok_iff.mp hRead, rfl⟩

/-- The request by which `delta` is sent for a resource. -/
def ReceivedRequest.ofDelta (e : Entity) (delta : Object) : ReceivedRequest :=
  ⟨.patch, e.odataId, (Value.object delta).render,
    (e.ifMatch.bind Http.HeaderValue.ofText?).bind Http.HeaderValue.text?⟩

theorem Entity.exists_condition {e : Entity}
    (h : ∀ tag, e.ifMatch = some tag → (Http.HeaderValue.ofText? tag).isSome = true) :
    ∃ extra, e.condition = .ok extra ∧
      extra.get? "if-match" = e.ifMatch.bind Http.HeaderValue.ofText? := by
  unfold Entity.condition
  cases hTag : e.ifMatch with
  | none => exact ⟨_, rfl, rfl⟩
  | some tag =>
    obtain ⟨v, hv⟩ := Option.isSome_iff_exists.mp (h tag hTag)
    simp only [Option.bind_some, hv]
    exact ⟨_, rfl, rfl⟩

theorem Entity.condition_cases {e : Entity} {extra : Http.Headers} (h : e.condition = .ok extra) :
    extra = .empty ∨
      ∃ tag, extra = Http.Headers.empty.insert "if-match" ⟨Bytes.ofText tag, false⟩ := by
  unfold Entity.condition at h
  cases hTag : e.ifMatch with
  | none =>
    rw [hTag] at h
    cases h
    exact .inl rfl
  | some tag =>
    simp only [hTag] at h
    cases hValue : Http.HeaderValue.ofText? tag with
    | none =>
      rw [hValue] at h
      cases h
    | some v =>
      rw [hValue] at h
      cases h
      unfold Http.HeaderValue.ofText? Http.HeaderValue.ofBytes? at hValue
      split at hValue
      · cases hValue
        exact .inr ⟨tag, rfl⟩
      · cases hValue

theorem update_of_legal [Updatable α] {current : α} {delta : Object}
    (hAttached : (Resource.entity current).isAttached = true)
    (hPending : pendingChanges current = .ok delta) (hChanged : delta ≠ [])
    (hTag : ∀ tag, (Resource.entity current).ifMatch = some tag →
      (Http.HeaderValue.ofText? tag).isSome = true) (service : MemoryService) :
    let request := ReceivedRequest.ofDelta (Resource.entity current) delta
    (update current : Call MemoryService Unit) service =
      ((service.answer request).map fun _ => (),
        { service with received := service.received ++ [request] }) := by
  intro request
  obtain ⟨extra, hCondition, hExtra⟩ := Entity.exists_condition hTag
  have hRequest : (⟨.patch, (Resource.entity current).odataId, (Value.object delta).render,
      (extra.get? "if-match").bind Http.HeaderValue.text?⟩ : ReceivedRequest) = request := by
    rw [hExtra]
    rfl
  rw [update_of_changed hAttached hPending hChanged, hCondition, ← hRequest]
  rfl

theorem update_memory [Updatable α] [LawfulUpdatable α] {current baseline : α} {body : Bytes}
    (hHolds : (Resource.entity current).Holds body)
    (hRead : Resource.ofBytes body = .ok baseline) (hChanged : difference baseline current ≠ [])
    (hTag : ∀ tag, (Resource.entity current).ifMatch = some tag →
      (Http.HeaderValue.ofText? tag).isSome = true) (service : MemoryService) :
    let request := ReceivedRequest.ofDelta (Resource.entity current) (difference baseline current)
    (update current : Call MemoryService Unit) service =
      ((service.answer request).map fun _ => (),
        { service with received := service.received ++ [request] }) :=
  update_of_legal hHolds.attached (pendingChanges_eq hHolds hRead) hChanged hTag service

end Redfish
