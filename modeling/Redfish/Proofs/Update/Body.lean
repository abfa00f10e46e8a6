import Redfish.Proofs.Json.Compact
import Redfish.Proofs.Update.Request

/-!
# The body of an update

What a service receives is what was pending, in the one form that it can be written in. None of it is a
number for the types whose writable properties are texts, truth values and boot settings.
-/

namespace Redfish

open Json

theorem body_of_received [Updatable α] {current : α} {service : MemoryService}
    {request : ReceivedRequest}
    (hSent : ((update current : Call MemoryService Unit) service).2.received =
      service.received ++ [request]) :
    ∃ delta, pendingChanges current = .ok delta ∧ request.body = (Value.object delta).render := by
  have hSilent : service.received ≠ service.received ++ [request] := by
    intro h
    exact absurd (List.self_eq_append_right.mp h) (List.cons_ne_nil _ _)
  generalize hRun : (update current : Call MemoryService Unit) service = run at hSent
  have hCases := update_run current service
  rw [hRun] at hCases
  cases hCases with
  | unknown | unchanged | detached | illegal => exact absurd hSent hSilent
  | @sent delta _ _ _ hPending _ _ hAnswer =>
    refine ⟨delta, hPending, ?_⟩
    cases hAnswer
    obtain rfl := List.singleton_inj.mp (List.append_cancel_left hSent)
    rfl

theorem Boot.canonical_sent {levels : Nat} (o c : Boot) :
    (Value.object (o.sent c)).Canonical (levels + 3) := by
  refine .object (o.sorted_sent c) ?_
  intro m hm
  have hSent := ((o.sorted_sent c).get?_eq_some_iff m.1 m.2).mpr hm
  obtain ⟨k, hk, _, hWritten, hValue⟩ := sent_eq_some hSent
  rw [← hValue]
  exact (preserves_member 0 c k hk).canonical hWritten (by omega)

namespace WritableType

theorem canonical_value {t : WritableType} (hReal : t ≠ outlet) {levels : Nat}
    {p : Property t.Carrier} (hp : p ∈ Updatable.properties (α := t.Carrier))
    (baseline current : t.Carrier) :
    ∃ v, p.value baseline current = .ok v ∧ v.Canonical (levels + 3) := by
  cases t <;> simp only [Updatable.properties, List.mem_cons, List.not_mem_nil, or_false] at hp
  case chassis =>
    rcases hp with rfl | rfl | rfl
    · exact ⟨_, rfl, Codec.canonical_optional .text _⟩
    · exact ⟨_, rfl, Codec.canonical_optional Codec.canonical_enumeration _⟩
    · exact ⟨_, rfl, Codec.canonical_optional .bool _⟩
  case computerSystem =>
    rcases hp with rfl | rfl | rfl | rfl | rfl
    · exact ⟨_, rfl, Codec.canonical_optional .text _⟩
    · exact ⟨_, rfl, Codec.canonical_optional .text _⟩
    · exact ⟨_, rfl, Codec.canonical_optional Codec.canonical_enumeration _⟩
    · exact ⟨_, rfl, Codec.canonical_optional .bool _⟩
    · exact ⟨_, rfl, baseline.boot.canonical_sent current.boot⟩
  case manager => rcases hp with rfl | rfl | rfl <;> exact ⟨_, rfl, Codec.canonical_optional .text _⟩
  case powerDistribution => rcases hp with rfl | rfl <;> exact ⟨_, rfl, Codec.canonical_optional .text _⟩
  case circuit =>
    rcases hp with rfl | rfl | rfl
    · exact ⟨_, rfl, Codec.canonical_optional .bool _⟩
    · exact ⟨_, rfl, Codec.canonical_optional .text _⟩
    · exact ⟨_, rfl, Codec.canonical_optional .bool _⟩
  case outlet => exact absurd rfl hReal

theorem canonical_difference {t : WritableType} (hReal : t ≠ outlet) (baseline current : t.Carrier) :
    (Value.object (difference baseline current)).Canonical Decoder.levels := by
  change (Value.object (difference baseline current)).Canonical (126 + 2)
  refine .object (sorted_difference baseline current) ?_
  intro m hm
  have hDelta := ((sorted_difference baseline current).get?_eq_some_iff m.1 m.2).mpr hm
  obtain ⟨p, hp, _, _, hValue⟩ := (get?_difference baseline current m.1 m.2).mp hDelta
  obtain ⟨v, hv, hCanonical⟩ : ∃ v, p.value baseline current = .ok v ∧ v.Canonical (124 + 3) :=
    canonical_value hReal hp baseline current
  obtain rfl := Except.ok.inj (hv.symm.trans hValue)
  exact hCanonical

theorem canonical_pendingChanges {t : WritableType} (hReal : t ≠ outlet) {current : t.Carrier}
    {delta : Object} (h : pendingChanges current = .ok delta) :
    (Value.object delta).Canonical Decoder.levels := by
  unfold pendingChanges at h
  split at h
  · cases h
  · obtain ⟨baseline, _, hDelta⟩ := bind_eq_ok_iff.mp h
    obtain rfl := Except.ok.inj ((diff_eq baseline current).symm.trans hDelta)
    exact canonical_difference hReal baseline current

end WritableType

/-- The body that a service receives is read as what was pending when it was sent: members sorted by
their names, nothing between them. So the bodies of two updates are the same exactly if the same was
pending. -/
theorem received_body_is_pending_delta {t : WritableType} (hReal : t ≠ .outlet)
    {live other : t.Carrier} {service service' : MemoryService} {request request' : ReceivedRequest}
    (hSent : ((update live : Call MemoryService Unit) service).2.received =
      service.received ++ [request])
    (hSent' : ((update other : Call MemoryService Unit) service').2.received =
      service'.received ++ [request']) :
    ∃ delta delta', pendingChanges live = .ok delta ∧ pendingChanges other = .ok delta' ∧
      request.json = .object delta ∧ (Value.object delta).Canonical Decoder.levels ∧
      IsCompact request.body ∧ (request.body = request'.body ↔ delta = delta') := by
  obtain ⟨delta, hPending, hBody⟩ := body_of_received hSent
  obtain ⟨delta', hPending', hBody'⟩ := body_of_received hSent'
  have hCanonical := WritableType.canonical_pendingChanges hReal hPending
  have hCanonical' := WritableType.canonical_pendingChanges hReal hPending'
  refine ⟨delta, delta', hPending, hPending', ?_, hCanonical, ?_, ?_⟩
  · unfold ReceivedRequest.json
    rw [hBody, hCanonical.decode_render]
  · rw [hBody]
    exact hCanonical.isCompact
  · rw [hBody, hBody', hCanonical.render_inj hCanonical', Value.object.injEq]

/-- A label with characters of every kind that is escaped, and some that are not. -/
theorem received_label_is_pending :
    let document := Bytes.ofText "\x7b\"@odata.id\":\"/p\",\"AssetTag\":\"a\"\x7d"
    let label := "\"\\/\n\u0001\u007fé𝄞"
    ∃ (fetched : PowerDistribution) (service : MemoryService) (request : ReceivedRequest),
      (getObject "/p" : Call MemoryService PowerDistribution) (.insert "/p" document .empty) =
        (.ok fetched, service) ∧
      let live := { fetched with userLabel := some label }
      ((update live : Call MemoryService Unit) service).2.received =
        service.received ++ [request] ∧
      request.body = Bytes.ofText
        "\x7b\"UserLabel\":\"\\\"\\\\/\\n\\u0001\u007fé𝄞\"\x7d" ∧
      pendingChanges live = .ok [("UserLabel", .text label)] ∧
      request.json = .object [("UserLabel", .text label)] := by
  intro document label
  let service : MemoryService := ⟨[("/p", document)], [], [⟨.get, "/p", [], none⟩]⟩
  let request : ReceivedRequest := ⟨.patch, "/p", (Value.object [("UserLabel", .text label)]).render, none⟩
  refine ⟨_, service, request, rfl, ?_⟩
  intro live
  have hSent : ((update live : Call MemoryService Unit) service).2.received =
      service.received ++ [request] := rfl
  obtain ⟨delta, _, hPending, _, hJson, _⟩ :=
    received_body_is_pending_delta (t := .powerDistribution) (by decide) hSent hSent
  have hDelta : pendingChanges live = .ok [("UserLabel", .text label)] := rfl
  obtain rfl := Except.ok.inj (hPending.symm.trans hDelta)
  exact ⟨hSent, rfl, hDelta, hJson⟩

end Redfish
