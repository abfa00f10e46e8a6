import Redfish.Proofs.Client
import Redfish.Proofs.Listing
import Redfish.Proofs.Recording
import Redfish.Proofs.Update.Amendment
import Redfish.Proofs.Update.Request

/-!
# Where resources come from

The bytes of a fetch are kept with the resource once they were read, and nothing that can be done to a
resource changes them. So a fetched resource can always be compared with what was fetched, and an update
of it fails only for its entity tag or on the way to the service.
-/

namespace Redfish

open Json

instance [Updatable α] [LawfulUpdatable α] : LawfulResource α :=
  ⟨LawfulUpdatable.entity_withEntity⟩

instance : LawfulResource ServiceRoot := ⟨fun _ _ => rfl⟩

instance : LawfulResource PowerEquipment := ⟨fun _ _ => rfl⟩

instance : LawfulResource Sensor := ⟨fun _ _ => rfl⟩

/-- The ways to list resources. Those that start at a resource need one that was fetched. -/
inductive IsListing [Transport σ] [Resource α] : Listing σ α (List α) → Prop
  | referenced (link : String) : IsListing (listReferenced link)
  | linked (links : List Link) : IsListing (listLinked links)
  | through (owner : Entity) {listing : Listing σ α (List α)} (h : IsListing listing) :
      IsListing (owner.attachedListing listing)

def retrieved : Except (ListError α) (List α) → List α
  | .ok items => items
  | .error e => e.items

/-- The identities that resources of a type come with, and whether the resource was fetched. Everything
in an identity can be edited but for the bytes of the fetch. A copy is the resource itself, and an update
changes nothing. -/
inductive Entity.Reachable (α : Type) [Resource α] : (fetched : Bool) → Entity → Prop
  | blank : Reachable α false Record.blank
  | decoded {bs : Bytes} {e : Entity} (h : (Record.decode : Decoder Entity).run bs = .ok e) :
      Reachable α false e
  | read {bs : Bytes} {a : α} (h : Resource.ofBytes bs = .ok a) : Reachable α false (Resource.entity a)
  | snapshot {e : Entity} {a : α} (h : e.snapshot = .ok a) : Reachable α false (Resource.entity a)
  | fetched {σ : Type} [Transport σ] {uri : String} {s : σ} {a : α}
      (h : ((getObject uri : Call σ α) s).1 = .ok a) : Reachable α true (Resource.entity a)
  | listed {σ : Type} [Transport σ] {listing : Listing σ α (List α)} (hListing : IsListing listing)
      {s s' : σ} {result : Except (ListError α) (List α)} (hRun : listing s = some (result, s')) {a : α}
      (h : a ∈ retrieved result) : Reachable α true (Resource.entity a)
  | edited {fetched : Bool} {e : Entity} (h : Reachable α fetched e) (odataId : String)
      (odataType etag : Option String) (id name : String) (description : Option String) :
      Reachable α fetched { e with odataId, odataType, etag, id, name, description }
  | matched {fetched : Bool} {e : Entity} (h : Reachable α fetched e) (enabled : Bool) :
      Reachable α fetched { e with matchesEtag := enabled }

/-- The identity has a client, and bytes from which a resource of the type is read. -/
structure Entity.IsRead (α : Type) [Resource α] (e : Entity) : Prop where
  attached : e.isAttached = true
  readable : ∃ baseline : α, Resource.ofBytes e.raw = .ok baseline

section

variable [Resource α] [LawfulResource α]

theorem Resource.unfetched_of_ofBytes {bs : Bytes} {a : α} (h : Resource.ofBytes bs = .ok a) :
    (Resource.entity a).Unfetched := by
  have hDecode := Decoder.decode_of_run h
  cases hOutline : (Outline.read bs).1 with
  | object ms close =>
    rw [hOutline] at hDecode
    obtain ⟨b, e, _, _, hEntity, rfl⟩ :=
      (Resource.decode_object_iff (rfl : deeper Decoder.levels = .ok 127)).mp hDecode
    rw [LawfulResource.entity_withEntity]
    exact Record.absorb_preserves Entity.unfetched_set hEntity Entity.unfetched_blank
  | word | number | text | array | missing =>
    rw [hOutline] at hDecode
    cases hDecode

theorem Resource.unfetched_of_snapshot {e : Entity} {a : α} (h : e.snapshot = .ok a) :
    (Resource.entity a).Unfetched := by
  unfold Entity.snapshot at h
  split at h
  · cases h
  · exact unfetched_of_ofBytes (mapError_eq_ok_iff.mp h)

variable [Transport σ]

theorem isRead_of_getObject {uri : String} {s : σ} {a : α}
    (h : ((getObject uri : Call σ α) s).1 = .ok a) : (Resource.entity a).IsRead α := by
  rw [getObject_run] at h
  obtain ⟨response, _, hResult⟩ := bind_eq_ok_iff.mp h
  obtain ⟨baseline, hRead, rfl⟩ := map_eq_ok_iff.mp hResult
  unfold Resource.attach
  rw [LawfulResource.entity_withEntity]
  exact ⟨rfl, baseline, mapError_eq_ok_iff.mp hRead⟩

theorem isRead_of_fetchAll {uris : List String} {s : σ} {a : α}
    (h : a ∈ ((fetchAll uris : StateM σ (List α × FailureReport)) s).1.1) :
    (Resource.entity a).IsRead α := by
  induction uris generalizing s with
  | nil => cases h
  | cons uri uris ih =>
    rw [fetchAll_cons] at h
    cases hFirst : ((getObject uri : Call σ α) s).1 with
    | error e =>
      rw [hFirst] at h
      exact ih h
    | ok first =>
      rw [hFirst] at h
      rcases List.mem_cons.mp h with rfl | hRest
      · exact isRead_of_getObject hFirst
      · exact ih hRest

variable {s s' : σ} {result : Except (ListError α) (List α)} {a : α}

theorem isRead_of_fetchMembers {uris : List String}
    (hRun : (fetchMembers uris : Listing σ α (List α)) s = some (result, s'))
    (h : a ∈ retrieved result) : (Resource.entity a).IsRead α := by
  rw [fetchMembers_run] at hRun
  obtain ⟨rfl, _⟩ := Prod.mk.inj (Option.some.inj hRun)
  split at h <;> exact isRead_of_fetchAll h

theorem isRead_of_listed {listing : Listing σ α (List α)} (hListing : IsListing listing)
    (hRun : listing s = some (result, s')) (h : a ∈ retrieved result) :
    (Resource.entity a).IsRead α := by
  induction hListing with
  | referenced link =>
    by_cases hLink : link = ""
    · subst hLink
      cases hRun
      cases h
    · rw [listReferenced_run hLink] at hRun
      split at hRun
      · cases hRun
      · cases hRun
        cases h
      · exact isRead_of_fetchMembers hRun h
  | linked links => exact isRead_of_fetchMembers hRun h
  | through owner _ ih =>
    unfold Entity.attachedListing at hRun
    cases hCheck : owner.checkAttached with
    | ok _ =>
      rw [hCheck] at hRun
      exact ih hRun
    | error _ =>
      rw [hCheck] at hRun
      cases hRun
      cases h

end

/-- The errors that tell of what is held here, not of a request. -/
def Error.IsLocal : Error → Prop
  | .decode .. | .encode _ | .detached _ => True
  | _ => False

class RemoteErrors (σ : Type) [Transport σ] : Prop where
  patch_error {uri : String} {body : Bytes} {extra : Http.Headers} {s : σ} {error : Error}
    (h : (Transport.patch uri body extra s).1 = .error error) : ¬error.IsLocal

instance : RemoteErrors MemoryService where
  patch_error h := by
    change MemoryService.answer _ _ = _ at h
    unfold MemoryService.answer at h
    split at h
    · cases h
      exact id
    · split at h
      · cases h
        exact id
      · cases h

class RemoteFailures (ν : Type) [Network ν] : Prop where
  failed {host : String} {port : Nat} {secure : Bool} {request : Http.Request} {network : ν}
    {error : Error}
    (h : (Network.exchange host port secure request network).1.1 = .failed error) : ¬error.IsLocal

theorem Client.verdict_error {c : Client} {f : Flight} {outcome : Outcome} {elapsed : Duration}
    {error : Error} (h : c.verdict f outcome elapsed = .error error) :
    ¬error.IsLocal ∨ outcome = .failed error := by
  unfold verdict result at h
  by_cases hLate : c.settings.timeout.nanos < elapsed.nanos
  · rw [if_pos hLate] at h
    cases h
    exact .inl id
  · rw [if_neg hLate] at h
    cases outcome with
    | unreachable reason =>
      cases h
      exact .inl id
    | failed e =>
      cases h
      exact .inr rfl
    | answered response =>
      dsimp only at h
      split at h
      · cases h
      · cases h
        exact .inl id

instance [Network ν] [RemoteFailures ν] : RemoteErrors (Session ν) where
  patch_error {uri body extra s error} h := by
    change (Session.send .patch uri body extra s).1 = _ at h
    cases hPrepare : s.client.prepare .patch uri body extra with
    | error e =>
      rw [Session.send_of_error hPrepare] at h
      obtain ⟨text, rfl⟩ := Client.prepare_error hPrepare
      cases h
      exact id
    | ok f =>
      rw [Session.send_of_flight hPrepare] at h
      rcases Client.verdict_error h with hRemote | hFailed
      · exact hRemote
      · exact RemoteFailures.failed hFailed

/-- What links the client and the bytes of an identity, which are two fields: neither is set without the
other, and bytes are kept only after a resource was read from them. -/
inductive Entity.Linked (α : Type) [Resource α] : (fetched : Bool) → Entity → Prop
  | unfetched {e : Entity} (h : e.Unfetched) : Linked α false e
  | fetched {e : Entity} (h : e.IsRead α) : Linked α true e

theorem Entity.Linked.edit [Resource α] {fetched : Bool} {e e' : Entity} (h : e.Linked α fetched)
    (hClient : e'.isAttached = e.isAttached) (hRaw : e'.raw = e.raw) : e'.Linked α fetched := by
  cases h with
  | unfetched h => exact .unfetched ⟨hClient.trans h.detached, hRaw.trans h.raw⟩
  | fetched h =>
    obtain ⟨hAttached, baseline, hRead⟩ := h
    exact .fetched ⟨hClient.trans hAttached, baseline, hRaw ▸ hRead⟩

namespace Entity.Reachable

theorem linked [Resource α] [LawfulResource α] {fetched : Bool} {e : Entity}
    (h : e.Reachable α fetched) : e.Linked α fetched := by
  induction h with
  | blank => exact .unfetched unfetched_blank
  | decoded h =>
    exact .unfetched (Record.decode_preserves unfetched_set unfetched_blank (Decoder.decode_of_run h))
  | read h => exact .unfetched (Resource.unfetched_of_ofBytes h)
  | snapshot h => exact .unfetched (Resource.unfetched_of_snapshot h)
  | fetched h => exact .fetched (isRead_of_getObject h)
  | listed hListing hRun h => exact .fetched (isRead_of_listed hListing hRun h)
  | edited _ _ _ _ _ _ _ ih => exact ih.edit rfl rfl
  | matched _ _ ih => exact ih.edit rfl rfl

theorem isAttached_eq [Resource α] [LawfulResource α] {fetched : Bool} {e : Entity}
    (h : e.Reachable α fetched) : (e.isAttached = true ↔ e.raw ≠ []) ∧ e.isAttached = fetched := by
  cases h.linked with
  | unfetched hNone => simp [hNone.detached, hNone.raw]
  | fetched hRead =>
    obtain ⟨hAttached, baseline, hRead⟩ := hRead
    -- Nothing is read from no bytes.
    have hNonempty : e.raw ≠ [] := by
      intro hNil
      rw [hNil, ofBytes_nil] at hRead
      cases hRead
    simp [hAttached, hNonempty]

theorem pendingChanges_eq [Updatable α] [LawfulUpdatable α] {current : α} {fetched : Bool}
    (h : (Resource.entity current).Reachable α fetched) :
    if fetched then ∃ delta, pendingChanges current = .ok delta
    else pendingChanges current = .error (.detached (Resource.entity current).odataId) := by
  cases h.linked with
  | unfetched hNone =>
    rw [if_neg Bool.false_ne_true, pendingChanges_run, snapshot_of_raw_nil hNone.raw]
    rfl
  | fetched hRead =>
    obtain ⟨hAttached, baseline, hRead⟩ := hRead
    exact ⟨_, Redfish.pendingChanges_eq ⟨hAttached, rfl⟩ hRead⟩

end Entity.Reachable

/-- How an update of a fetched resource fails: its entity tag cannot be sent, and then nothing is, or the
one request for what is pending fails. -/
inductive UpdateFailure [Updatable α] [Transport σ] (current : α) (s : Recorded σ) (error : Error) :
    Recorded σ → Prop
  | illegalTag {delta : Object} {tag : String} (hPending : pendingChanges current = .ok delta)
      (hChanged : delta ≠ []) (hMatches : (Resource.entity current).matchesEtag = true)
      (hTag : (Resource.entity current).etag = some tag) (hIllegal : Http.HeaderValue.ofText? tag = none)
      (hError : error = .validation
        ("Invalid ETag " ++ Quoted.quote tag ++ ": failed to parse header value")) :
      UpdateFailure current s error s
  | request {delta : Object} {extra : Http.Headers} {service : σ}
      (hPending : pendingChanges current = .ok delta) (hChanged : delta ≠ [])
      (hCondition : (Resource.entity current).condition = .ok extra)
      (hPatch : Transport.patch (Resource.entity current).odataId (Value.object delta).render extra
        s.service = (.error error, service)) :
      UpdateFailure current s error ⟨service, s.made ++
        [.patch (Resource.entity current).odataId (Value.object delta).render extra]⟩

theorem Entity.condition_error {e : Entity} {error : Error} (h : e.condition = .error error) :
    ∃ tag, e.matchesEtag = true ∧ e.etag = some tag ∧ Http.HeaderValue.ofText? tag = none ∧
      error = .validation
        ("Invalid ETag " ++ Quoted.quote tag ++ ": failed to parse header value") := by
  unfold condition at h
  cases hTag : e.ifMatch with
  | none =>
    rw [hTag] at h
    cases h
  | some tag =>
    simp only [hTag] at h
    cases hValue : Http.HeaderValue.ofText? tag with
    | some v =>
      rw [hValue] at h
      cases h
    | none =>
      rw [hValue] at h
      unfold ifMatch at hTag
      split at hTag
      · rename_i hMatches
        exact ⟨tag, hMatches, hTag, hValue, (Except.error.inj h).symm⟩
      · cases hTag

section

variable [Updatable α] [Transport σ] {current : α} {delta : Object} {s s' : Recorded σ} {error : Error}

theorem updateFailure_of_pending (hAttached : (Resource.entity current).isAttached = true)
    (hPending : pendingChanges current = .ok delta)
    (h : (update current : Call (Recorded σ) Unit) s = (.error error, s')) :
    UpdateFailure current s error s' := by
  have hRun := update_run current s
  generalize hResult : (update current : Call (Recorded σ) Unit) s = run at hRun
  cases hRun with
  | unknown hUnknown =>
    rw [hPending] at hUnknown
    cases hUnknown
  | unchanged =>
    rw [hResult] at h
    cases h
  | detached _ _ hDetached => cases hAttached.symm.trans hDetached
  | illegal hPending hChanged hCondition =>
    rw [hResult] at h
    cases h
    obtain ⟨tag, hMatches, hTag, hIllegal, hError⟩ := Entity.condition_error hCondition
    exact .illegalTag hPending hChanged hMatches hTag hIllegal hError
  | @sent _ _ answer _ hPending hChanged hCondition hAnswer =>
    rw [hResult] at h
    cases answer with
    | ok response => cases h
    | error e =>
      cases h
      obtain ⟨hPatch, rfl⟩ := Prod.mk.inj hAnswer
      exact .request hPending hChanged hCondition (Prod.ext hPatch rfl)

theorem UpdateFailure.remote [RemoteErrors σ] (h : UpdateFailure current s error s') :
    ¬error.IsLocal := by
  cases h with
  | illegalTag _ _ _ _ _ hError =>
    rw [hError]
    exact id
  | request _ _ _ hPatch => exact RemoteErrors.patch_error (congrArg Prod.fst hPatch)

end

/-- A resource is attached exactly if it keeps bytes, which is if it was fetched. What is pending is known
of exactly the fetched resources, however they were edited, and an update of one fails only for an
entity tag that cannot be sent or in the one request for what is pending. -/
theorem reachable_update_fails_remotely {α : Type} [Resource α] [LawfulResource α] {fetched : Bool}
    {e : Entity} (h : e.Reachable α fetched) {t : WritableType} {live : t.Carrier} {known : Bool}
    (hLive : (Resource.entity live).Reachable t.Carrier known) :
    (e.isAttached = true ↔ e.raw ≠ []) ∧ e.isAttached = fetched ∧
    ((∃ error, pendingChanges live = .error error) ↔ known = false) ∧
    (∀ error, pendingChanges live = .error error →
      error = .detached (Resource.entity live).odataId) ∧
    (known = true → ∀ (σ : Type) [Transport σ] (s s' : Recorded σ) (error : Error),
      (update live : Call (Recorded σ) Unit) s = (.error error, s') →
        UpdateFailure live s error s' ∧ (RemoteErrors σ → ¬error.IsLocal)) := by
  obtain ⟨hRaw, hFetched⟩ := h.isAttached_eq
  have hPending := hLive.pendingChanges_eq
  cases known with
  | false =>
    refine ⟨hRaw, hFetched, ⟨fun _ => rfl, fun _ => ⟨_, hPending⟩⟩, ?_, nofun⟩
    intro error hError
    exact Except.error.inj (hError.symm.trans hPending)
  | true =>
    obtain ⟨delta, hDelta⟩ := hPending
    have hNoError : ∀ error, pendingChanges live ≠ .error error := by
      intro error hError
      cases hDelta.symm.trans hError
    refine ⟨hRaw, hFetched, ⟨?_, nofun⟩, fun error hError => absurd hError (hNoError error), ?_⟩
    · rintro ⟨error, hError⟩
      exact absurd hError (hNoError error)
    · intro _ σ _ s s' error hUpdate
      have hFailure := updateFailure_of_pending hLive.isAttached_eq.2 hDelta hUpdate
      exact ⟨hFailure, fun _ => hFailure.remote⟩

/-- A fetched resource with a new label and a tag that cannot be sent, beside a sensor that was not
fetched. -/
theorem update_with_unsendable_tag_fails :
    let document := Bytes.ofText "\x7b\"@odata.id\":\"/p\",\"AssetTag\":\"a\"\x7d"
    let service : Recorded MemoryService := ⟨.insert "/p" document .empty, []⟩
    ∃ (fetched : PowerDistribution) (s : Recorded MemoryService),
      (getObject "/p" : Call (Recorded MemoryService) PowerDistribution) service = (.ok fetched, s) ∧
      let live := { fetched with
        entity := { fetched.entity with etag := some "\n" }
        userLabel := some "a" }
      (Record.blank : Entity).isAttached = false ∧ (¬∃ error, pendingChanges live = .error error) ∧
      (update live : Call (Recorded MemoryService) Unit) s =
        (.error (.validation "Invalid ETag \"\\n\": failed to parse header value"), s) ∧
      UpdateFailure live s (.validation "Invalid ETag \"\\n\": failed to parse header value") s := by
  intro document service
  refine ⟨_, _, rfl, ?_⟩
  intro live
  have hFetched : ((getObject "/p" : Call (Recorded MemoryService) PowerDistribution) service).1 =
      .ok _ := rfl
  have hLive : (Resource.entity live).Reachable WritableType.powerDistribution.Carrier true :=
    .edited (.fetched hFetched) ..
  obtain ⟨_, hBlank, hKnown, _, hFailure⟩ :=
    reachable_update_fails_remotely (.blank (α := Sensor)) (t := .powerDistribution) hLive
  refine ⟨hBlank, fun h => ?_, rfl, (hFailure rfl _ _ _ _ rfl).1⟩
  cases hKnown.mp h

end Redfish
