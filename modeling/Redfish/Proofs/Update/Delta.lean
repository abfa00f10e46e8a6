import Mathlib.Data.List.Nodup
import Redfish.Proofs.Update.Writable

/-!
# What an update sends

The delta of two resources is a sorted table of the properties that differ. An update sends the delta
of the bytes of the fetch and the resource as it is now, in one request, and no request if the delta is
empty.
-/

namespace Redfish

open Json

def Json.Record.wire? [Record α] (n : String) (a : α) : Option Value :=
  ((Record.members (α := α)).find? (·.name == n)).map fun m => m.codec.encode (m.get a)

theorem Json.Record.wire?_of_find? [Record α] {n : String} {m : Member α}
    (h : (Record.members (α := α)).find? (·.name == n) = some m) (a : α) :
    Record.wire? n a = some (m.codec.encode (m.get a)) := by
  rw [Record.wire?, h]
  rfl

def Property.sent? (baseline current : α) (p : Property α) : Option (String × Value) :=
  if p.changed baseline current then (p.value baseline current).toOption.map (p.name, ·) else none

theorem Property.sent?_eq_some_iff (baseline current : α) (p : Property α) (n : String) (v : Value) :
    p.sent? baseline current = some (n, v) ↔
      p.name = n ∧ p.changed baseline current = true ∧ p.value baseline current = .ok v := by
  unfold Property.sent?
  cases p.changed baseline current <;> cases p.value baseline current <;> simp [Except.toOption]

theorem Property.name_of_sent? (baseline current : α) (p : Property α) (a : String × Value)
    (h : p.sent? baseline current = some a) : a.1 = p.name :=
  ((p.sent?_eq_some_iff baseline current a.1 a.2).mp h).1.symm

def difference [Updatable α] (baseline current : α) : Object :=
  Table.ofList (Updatable.properties.filterMap (Property.sent? baseline current))

section

variable [Updatable α]

theorem sorted_difference (baseline current : α) : (difference baseline current).Sorted :=
  Table.sorted_ofList _

omit [Updatable α] in
theorem mapM_value {baseline current : α} {ps : List (Property α)}
    (h : ∀ p ∈ ps, ∃ v, p.value baseline current = .ok v) :
    ((ps.filter (·.changed baseline current)).mapM fun p => do
        return (p.name, ← (p.value baseline current).mapError Error.encode) :
        Except Error (List (String × Value))) =
      .ok (ps.filterMap (Property.sent? baseline current)) := by
  induction ps with
  | nil => rfl
  | cons p ps ih =>
    obtain ⟨⟨v, hv⟩, hRest⟩ := List.forall_mem_cons.mp h
    cases hChanged : p.changed baseline current with
    | false =>
      have hNone : p.sent? baseline current = none := if_neg (Bool.eq_false_iff.mp hChanged)
      rw [List.filter_cons, hChanged, if_neg Bool.false_ne_true, List.filterMap_cons_none hNone]
      exact ih hRest
    | true =>
      have hSome := (p.sent?_eq_some_iff baseline current p.name v).mpr ⟨rfl, hChanged, hv⟩
      rw [List.filter_cons, hChanged, if_pos rfl, List.filterMap_cons_some hSome, List.mapM_cons, hv,
        ih hRest]
      rfl

variable [LawfulUpdatable α]

theorem diff_eq (baseline current : α) : diff baseline current = .ok (difference baseline current) := by
  unfold diff
  dsimp only
  rw [mapM_value fun p hp => LawfulUpdatable.encodes p hp baseline current]
  rfl

theorem get?_difference (baseline current : α) (n : String) (v : Value) :
    (difference baseline current).get? n = some v ↔ ∃ p ∈ Updatable.properties (α := α),
      p.name = n ∧ p.changed baseline current = true ∧ p.value baseline current = .ok v := by
  unfold difference
  rw [Table.get?_ofList_filterMap (Property.name_of_sent? _ _) LawfulUpdatable.nodup]
  simp only [Property.sent?_eq_some_iff]

theorem get?_difference_name (baseline current : α) {p : Property α}
    (hp : p ∈ Updatable.properties (α := α)) :
    (difference baseline current).get? p.name =
      if p.changed baseline current then (p.value baseline current).toOption else none := by
  split
  · rename_i hChanged
    obtain ⟨v, hv⟩ := LawfulUpdatable.encodes p hp baseline current
    rw [hv]
    exact (get?_difference baseline current _ _).mpr ⟨p, hp, rfl, hChanged, hv⟩
  · rename_i hSame
    rw [Option.eq_none_iff_forall_ne_some]
    intro v hv
    obtain ⟨q, hq, hName, hChanged, _⟩ := (get?_difference baseline current _ v).mp hv
    obtain rfl := List.inj_on_of_nodup_map LawfulUpdatable.nodup hq hp hName
    exact hSame hChanged

theorem difference_eq_nil_iff (baseline current : α) :
    difference baseline current = [] ↔
      ∀ p ∈ Updatable.properties (α := α), p.changed baseline current = false := by
  unfold difference
  rw [Table.ofList_eq_nil_iff
    (Table.nodup_filterMap (Property.name_of_sent? _ _) LawfulUpdatable.nodup),
    List.filterMap_eq_nil_iff]
  apply forall₂_congr
  intro p hp
  obtain ⟨v, hv⟩ := LawfulUpdatable.encodes p hp baseline current
  unfold Property.sent?
  rw [hv]
  cases p.changed baseline current <;> simp [Except.toOption]

end

namespace WritableType

/-- The delta holds the wire names of exactly the writable properties that differ. A whole property has
the current value; the boot settings have the members of the current value that are new or differ. -/
structure IsMinimalDelta (t : WritableType) (baseline current : t.Carrier) (delta : Object) : Prop where
  sorted : delta.Sorted
  named : ∀ n, (∃ v, delta.get? n = some v) ↔ (n, true) ∈ t.comparison baseline current
  whole : ∀ n v, n ≠ "Boot" → delta.get? n = some v → Record.wire? n current = some v
  boot : ∀ v, delta.get? "Boot" = some v → ∃ old new sent : Object,
    Record.wire? "Boot" baseline = some (.object old) ∧
    Record.wire? "Boot" current = some (.object new) ∧
    v = .object sent ∧ sent.Sorted ∧
    ∀ k w, sent.get? k = some w ↔ new.get? k = some w ∧ ∀ u, old.get? k = some u → (u == w) = false

theorem isMinimalDelta_difference (t : WritableType) (baseline current : t.Carrier) :
    t.IsMinimalDelta baseline current (difference baseline current) where
  sorted := sorted_difference baseline current
  named n := by
    rw [comparison_eq, List.mem_map]
    constructor
    · rintro ⟨v, hv⟩
      obtain ⟨p, hp, hName, hChanged, _⟩ := (get?_difference baseline current n v).mp hv
      exact ⟨p, hp, by rw [hName, hChanged]⟩
    · rintro ⟨p, hp, h⟩
      obtain ⟨hName, hChanged⟩ := Prod.mk.inj h
      obtain ⟨v, hv⟩ := LawfulUpdatable.encodes p hp baseline current
      exact ⟨v, (get?_difference baseline current n v).mpr ⟨p, hp, hName, hChanged, hv⟩⟩
  whole n v hBoot hv := by
    obtain ⟨p, hp, rfl, _, hValue⟩ := (get?_difference baseline current n v).mp hv
    obtain ⟨m, hFound, hWhole⟩ := t.isWhole_of_ne_boot hp hBoot
    rw [hWhole.value_eq] at hValue
    rw [Record.wire?_of_find? hFound, Except.ok.inj hValue]
  boot v hv := by
    obtain ⟨p, hp, hBoot, _, hValue⟩ := (get?_difference baseline current "Boot" v).mp hv
    obtain ⟨boot, hIsBoot⟩ := t.isBoot_of_eq_boot hp hBoot
    obtain ⟨set, hFound⟩ := hIsBoot.exists_member
    obtain rfl := hIsBoot.property_eq
    obtain rfl := Except.ok.inj hValue
    refine ⟨Table.ofList (Record.written (boot baseline)), Table.ofList (Record.written (boot current)),
      (boot baseline).sent (boot current), Record.wire?_of_find? hFound baseline,
      Record.wire?_of_find? hFound current, Boot.changedMembers_encode _ _, Boot.sorted_sent _ _, ?_⟩
    intro k w
    rw [Boot.get?_sent]
    apply and_congr_right
    intro _
    cases Table.get? (Table.ofList (Record.written (boot baseline))) k <;> simp

theorem difference_congr (t : WritableType) (baseline : t.Carrier) {current current' : t.Carrier}
    (h : ∀ p ∈ Updatable.properties (α := t.Carrier), ∀ m ∈ Record.members (α := t.Carrier),
      m.name = p.name → m.get current = m.get current') :
    difference baseline current = difference baseline current' := by
  have hProperty : ∀ p ∈ Updatable.properties (α := t.Carrier),
      p.changed baseline current = p.changed baseline current' ∧
        p.value baseline current = p.value baseline current' := by
    intro p hp
    by_cases hBoot : p.name = "Boot"
    · obtain ⟨boot, hIsBoot⟩ := t.isBoot_of_eq_boot hp hBoot
      obtain ⟨set, hFound⟩ := hIsBoot.exists_member
      obtain rfl := hIsBoot.property_eq
      have hGet : boot current = boot current' :=
        h _ hp _ (List.mem_of_find?_eq_some hFound) rfl
      simp only [Property.byMembers, hGet, and_self]
    · obtain ⟨m, hFound, hWhole⟩ := t.isWhole_of_ne_boot hp hBoot
      have hGet := h p hp m (List.mem_of_find?_eq_some hFound) hWhole.name_eq
      exact ⟨hWhole.changed_congr _ _ _ _ rfl hGet, by rw [hWhole.value_eq, hWhole.value_eq, hGet]⟩
  unfold difference
  congr 1
  apply List.filterMap_congr
  intro p hp
  unfold Property.sent?
  rw [(hProperty p hp).1, (hProperty p hp).2]

end WritableType

theorem ofBytes_nil [Resource α] : (Resource.ofBytes [] : Except Fault α) = .error .ended := rfl

theorem snapshot_of_raw_nil [Resource α] {e : Entity} (h : e.raw = []) :
    (e.snapshot : Except Error α) = .error (.detached e.odataId) := by
  unfold Entity.snapshot
  rw [h]
  rfl

theorem snapshot_of_ofBytes [Resource α] {e : Entity} {baseline : α}
    (h : Resource.ofBytes e.raw = .ok baseline) : e.snapshot = .ok baseline := by
  unfold Entity.snapshot
  cases hRaw : e.raw with
  | nil =>
    rw [hRaw, ofBytes_nil] at h
    cases h
  | cons b body =>
    rw [hRaw] at h
    exact mapError_eq_ok_iff.mpr h

theorem pendingChanges_run [Updatable α] [LawfulUpdatable α] (current : α) :
    pendingChanges current = (Resource.entity current).snapshot.map (difference · current) := by
  have hSome : (Updatable.properties (α := α)).isEmpty = false := by
    rw [List.isEmpty_eq_false_iff]
    exact LawfulUpdatable.properties_ne_nil
  unfold pendingChanges
  rw [hSome, if_neg Bool.false_ne_true]
  cases ((Resource.entity current).snapshot : Except Error α) with
  | error e => rfl
  | ok baseline => exact diff_eq baseline current

/-- The entity has the client and the bytes of a fetch. -/
structure Entity.Holds (e : Entity) (body : Bytes) : Prop where
  attached : e.isAttached = true
  raw : e.raw = body

theorem Entity.holds_attach (uri : String) (body : Bytes) (e : Entity) : (e.attach uri body).Holds body :=
  ⟨rfl, rfl⟩

theorem pendingChanges_eq [Updatable α] [LawfulUpdatable α] {current baseline : α} {body : Bytes}
    (hHolds : (Resource.entity current).Holds body)
    (hRead : Resource.ofBytes body = .ok baseline) :
    pendingChanges current = .ok (difference baseline current) := by
  rw [← hHolds.raw] at hRead
  rw [pendingChanges_run, snapshot_of_ofBytes hRead]
  rfl

section

variable [Updatable α] [Transport σ]

theorem update_of_unchanged {current : α} (h : pendingChanges current = .ok []) (s : σ) :
    (update current : Call σ Unit) s = (.ok (), s) := by
  unfold update
  rw [Call.bind_run, Call.lift_run, h]
  rfl

theorem update_of_changed {current : α} {delta : Object}
    (hAttached : (Resource.entity current).isAttached = true)
    (h : pendingChanges current = .ok delta) (hChanged : delta ≠ []) (s : σ) :
    (update current : Call σ Unit) s =
      match (Resource.entity current).condition with
      | .error e => (.error e, s)
      | .ok extra =>
        ((Transport.patch (Resource.entity current).odataId (Value.object delta).render extra s).1.map
            fun _ => (),
          (Transport.patch (Resource.entity current).odataId (Value.object delta).render extra s).2) := by
  have hSome : delta.isEmpty = false := List.isEmpty_eq_false_iff.mpr hChanged
  have hCheck : (Resource.entity current).checkAttached = .ok () := if_pos hAttached
  have hBody : (Value.object delta).toBytes.mapError Error.encode =
      .ok (Value.object delta).render := rfl
  unfold update
  rw [Call.bind_run, Call.lift_run, h]
  change (if delta.isEmpty = true then pure () else _ : Call σ Unit) s = _
  rw [hSome, if_neg Bool.false_ne_true]
  simp only [Call.bind_run, Call.lift_run, hCheck, hBody]
  cases (Resource.entity current).condition with
  | error e => rfl
  | ok extra =>
    dsimp only
    rcases Transport.patch (Resource.entity current).odataId (Value.object delta).render extra s with
      ⟨r, s'⟩
    cases r <;> rfl

theorem update_of_detached {current : α} {delta : Object}
    (hDetached : (Resource.entity current).isAttached = false)
    (h : pendingChanges current = .ok delta) (hChanged : delta ≠ []) (s : σ) :
    (update current : Call σ Unit) s = (.error (.detached (Resource.entity current).odataId), s) := by
  have hSome : delta.isEmpty = false := List.isEmpty_eq_false_iff.mpr hChanged
  have hCheck : (Resource.entity current).checkAttached =
      .error (.detached (Resource.entity current).odataId) := if_neg (Bool.eq_false_iff.mp hDetached)
  unfold update
  rw [Call.bind_run, Call.lift_run, h]
  change (if delta.isEmpty = true then pure () else _ : Call σ Unit) s = _
  rw [hSome, if_neg Bool.false_ne_true]
  simp only [Call.bind_run, Call.lift_run, hCheck]

/-- How an update goes: what has to be sent is not known, nothing has to be sent, there is no client to
send it, the condition cannot be sent, or one request is made. -/
inductive UpdateRun (current : α) (s : σ) : Except Error Unit × σ → Prop
  | unknown {e : Error} (hPending : pendingChanges current = .error e) :
      UpdateRun current s (.error e, s)
  | unchanged (hPending : pendingChanges current = .ok []) : UpdateRun current s (.ok (), s)
  | detached {delta : Object} (hPending : pendingChanges current = .ok delta) (hChanged : delta ≠ [])
      (hDetached : (Resource.entity current).isAttached = false) :
      UpdateRun current s (.error (.detached (Resource.entity current).odataId), s)
  | illegal {delta : Object} {e : Error} (hPending : pendingChanges current = .ok delta)
      (hChanged : delta ≠ []) (hCondition : (Resource.entity current).condition = .error e) :
      UpdateRun current s (.error e, s)
  | sent {delta : Object} {extra : Http.Headers} {answer : Except Error Response} {s' : σ}
      (hPending : pendingChanges current = .ok delta) (hChanged : delta ≠ [])
      (hCondition : (Resource.entity current).condition = .ok extra)
      (hAnswer : Transport.patch (Resource.entity current).odataId (Value.object delta).render extra s =
        (answer, s')) : UpdateRun current s (answer.map fun _ => (), s')

theorem update_run (current : α) (s : σ) :
    UpdateRun current s ((update current : Call σ Unit) s) := by
  cases hPending : pendingChanges current with
  | error e =>
    have hRun : (update current : Call σ Unit) s = (.error e, s) := by
      unfold update
      rw [Call.bind_run, Call.lift_run, hPending]
    rw [hRun]
    exact .unknown hPending
  | ok delta =>
    by_cases hChanged : delta = []
    · subst hChanged
      rw [update_of_unchanged hPending]
      exact .unchanged hPending
    · cases hAttached : (Resource.entity current).isAttached with
      | false =>
        rw [update_of_detached hAttached hPending hChanged]
        exact .detached hPending hChanged hAttached
      | true =>
        rw [update_of_changed hAttached hPending hChanged]
        cases hCondition : (Resource.entity current).condition with
        | ok extra => exact .sent hPending hChanged hCondition rfl
        | error e => exact .illegal hPending hChanged hCondition

end

end Redfish
