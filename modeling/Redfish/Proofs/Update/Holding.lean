import Redfish.Proofs.Update.Request

/-!
# Updates while a resource is held

Between a fetch and an update the resource may be edited, the service may change, and other updates may
be made. None of this moves the bytes of the fetch, so what an update sends is the minimal delta of
these bytes and the resource as it is at that time, whatever happened before.
-/

namespace Redfish

open Json

/-- What can happen after a resource was fetched. -/
inductive Occurrence (α : Type)
  | edit (edited : α)
  | insert (uri : String) (document : Bytes)
  | remove (uri : String)
  | failWith (uri : String) (code : Http.StatusCode)
  | update

structure Holding (α : Type) where
  service : MemoryService
  live : α

namespace Holding

variable [Updatable α]

/-- An edit can reach neither the client nor the bytes of the fetch. -/
def step (s : Holding α) : Occurrence α → Holding α
  | .edit edited => { s with
      live := Resource.withEntity
        { Resource.entity edited with
          isAttached := (Resource.entity s.live).isAttached
          raw := (Resource.entity s.live).raw } edited }
  | .insert uri document => { s with service := s.service.insert uri document }
  | .remove uri => { s with service := s.service.remove uri }
  | .failWith uri code => { s with service := s.service.failWith uri code }
  | .update => { s with service := ((Redfish.update s.live : Call MemoryService Unit) s.service).2 }

def run (history : List (Occurrence α)) (s : Holding α) : Holding α := history.foldl step s

variable [LawfulUpdatable α]

theorem holds_step {s : Holding α} {body : Bytes} (h : (Resource.entity s.live).Holds body)
    (o : Occurrence α) : (Resource.entity (s.step o).live).Holds body := by
  cases o with
  | edit edited =>
    change (Resource.entity (Resource.withEntity _ _)).Holds body
    rw [LawfulUpdatable.entity_withEntity]
    exact ⟨h.attached, h.raw⟩
  | insert | remove | failWith | update => exact h

theorem holds_run (history : List (Occurrence α)) {s : Holding α} {body : Bytes}
    (h : (Resource.entity s.live).Holds body) : (Resource.entity (s.run history).live).Holds body := by
  induction history generalizing s with
  | nil => exact h
  | cons o history ih => exact ih (holds_step h o)

end Holding

/-- As long as it is held, the resource keeps the bytes of its fetch. An update makes no request if
nothing writable differs from what they spell; otherwise it makes one, for the minimal delta, and gives
what the service answers. Nothing but the writable members of the resource counts for the delta. -/
theorem update_sends_minimal_delta (t : WritableType) {uri : String}
    {service service' : MemoryService} {fetched : t.Carrier}
    (hFetch : (getObject uri : Call MemoryService t.Carrier) service = (.ok fetched, service'))
    (history : List (Occurrence t.Carrier)) :
    let now := Holding.run history ⟨service', fetched⟩
    let e := Resource.entity now.live
    ∃ body baseline, service.documents.lookup uri = some body ∧ e.Holds body ∧
      Resource.ofBytes body = .ok baseline ∧
      ((∀ d ∈ t.comparison baseline now.live, d.2 = false) →
        (update now.live : Call MemoryService Unit) now.service = (.ok (), now.service)) ∧
      ((∃ d ∈ t.comparison baseline now.live, d.2 = true) →
        (∀ tag, e.ifMatch = some tag → (Http.HeaderValue.ofText? tag).isSome = true) →
        ∃ delta, t.IsMinimalDelta baseline now.live delta ∧
          (update now.live : Call MemoryService Unit) now.service =
            ((now.service.answer (.ofDelta e delta)).map fun _ => (),
              { now.service with received := now.service.received ++ [.ofDelta e delta] }) ∧
          ∀ other : t.Carrier,
            (∀ p ∈ Updatable.properties (α := t.Carrier), ∀ m ∈ Record.members (α := t.Carrier),
              m.name = p.name → m.get now.live = m.get other) →
            diff baseline other = .ok delta) := by
  intro now e
  obtain ⟨body, baseline, hBody, hRead, rfl⟩ := getObject_memory hFetch
  have hFetched : (Resource.entity (Resource.attach uri body baseline)).Holds body := by
    unfold Resource.attach
    rw [LawfulUpdatable.entity_withEntity]
    exact Entity.holds_attach uri body _
  have hHolds : e.Holds body := Holding.holds_run history hFetched
  have hPending := pendingChanges_eq hHolds hRead
  refine ⟨body, baseline, hBody, hHolds, hRead, ?_, ?_⟩
  · intro hSame
    have hNil : difference baseline now.live = [] := by
      rw [difference_eq_nil_iff]
      intro p hp
      refine hSame (p.name, p.changed baseline now.live) ?_
      rw [WritableType.comparison_eq]
      exact List.mem_map.mpr ⟨p, hp, rfl⟩
    exact update_of_unchanged (hNil ▸ hPending) _
  · rintro ⟨d, hd, hChanged⟩ hTag
    have hSome : difference baseline now.live ≠ [] := by
      rw [WritableType.comparison_eq] at hd
      obtain ⟨p, hp, rfl⟩ := List.mem_map.mp hd
      intro hNil
      rw [(difference_eq_nil_iff baseline now.live).mp hNil p hp] at hChanged
      cases hChanged
    refine ⟨difference baseline now.live, t.isMinimalDelta_difference baseline now.live,
      update_memory hHolds hRead hSome hTag _, ?_⟩
    intro other hOther
    rw [diff_eq, t.difference_congr baseline hOther]

theorem update_sends_label_after_refusal :
    let document := Bytes.ofText
      "\x7b\"@odata.id\":\"/p\",\"@odata.etag\":\"v1\",\"AssetTag\":\"a\",\"UserLabel\":\"b\"\x7d"
    ∃ (fetched : PowerDistribution) (service' : MemoryService),
      (getObject "/p" : Call MemoryService PowerDistribution) (.insert "/p" document .empty) =
        (.ok fetched, service') ∧
      let now := Holding.run [.edit { fetched with userLabel := some "c" }, .failWith "/p" .notFound,
        .update, .remove "/p"] ⟨service', fetched⟩
      ∃ baseline delta, Resource.ofBytes document = .ok baseline ∧
        WritableType.powerDistribution.IsMinimalDelta baseline now.live delta ∧
        ((update now.live : Call MemoryService Unit) now.service).2.received =
          now.service.received ++ [.ofDelta (Resource.entity now.live) delta] := by
  intro document
  refine ⟨_, _, rfl, ?_⟩
  intro now
  obtain ⟨_, baseline, hBody, _, hRead, _, hDiffer⟩ := @update_sends_minimal_delta .powerDistribution
    "/p" (.insert "/p" document .empty) _ _ rfl
    [.edit _, .failWith "/p" .notFound, .update, .remove "/p"]
  obtain rfl := Option.some.inj hBody
  obtain rfl := Except.ok.inj hRead
  have hLegal : ∀ tag, (Resource.entity now.live).ifMatch = some tag →
      (Http.HeaderValue.ofText? tag).isSome = true := by
    rintro _ ⟨⟩
    rfl
  obtain ⟨delta, hMinimal, hSent, _⟩ := hDiffer
    ⟨("UserLabel", true), List.mem_cons_of_mem _ (List.mem_singleton.mpr rfl), rfl⟩ hLegal
  exact ⟨_, delta, rfl, hMinimal, by rw [hSent]⟩

end Redfish
