import Redfish.Proofs.Update.Condition

/-!
# What an update tells a service

An update is made if a property differs, and says how a property differs by what the codec writes. The
two come apart where the new value is one that cannot be written: a boot setting that was taken away, or
a real that is not finite. Then the PATCH names a property and says nothing new about it.
-/

namespace Redfish

open Json

/-- The object of a PATCH, put into a record: what stands there in place of the member of its name, or,
if it is an object itself, member by member into what is there. Numbers are taken as they were sent. -/
def Json.Record.receive [Record α] (delta : Object) (a : α) : Except Fault α :=
  Record.absorb Record.members Outline.skip (Decoder.levels - 1) [] a <|
    delta.outlines fun d =>
      amended Value.exactOutline d.2 ((Record.wire? d.1 a).map Value.exactOutline)

namespace WritableType

/-- The resource as far as it can be written, with nothing in place of a real that is not finite. -/
def spelled : (t : WritableType) → t.Carrier → t.Carrier
  | outlet, o => { o with
      powerOnDelaySeconds := o.powerOnDelaySeconds.filter Float.isFinite
      powerOffDelaySeconds := o.powerOffDelaySeconds.filter Float.isFinite }
  | chassis, c | computerSystem, c | manager, c | powerDistribution, c | circuit, c => c

/-- Every property in which `c` differs from `o` can be told: the boot settings hold something that was
not there before, and a delay that is set where there was none is finite. -/
def IsTold : (t : WritableType) → (o c : t.Carrier) → Prop
  | computerSystem, o, c => c.boot ≠ o.boot → o.boot.overlay c.boot ≠ o.boot
  | outlet, o, c =>
    (o.powerOnDelaySeconds = none → ∀ x, c.powerOnDelaySeconds = some x → x.isFinite = true) ∧
    (o.powerOffDelaySeconds = none → ∀ x, c.powerOffDelaySeconds = some x → x.isFinite = true)
  | _, _, _ => True

theorem isFinite_spelled (t : WritableType) (c : t.Carrier) : t.IsFinite (t.spelled c) := by
  cases t
  case outlet =>
    constructor
    · intro x hx
      exact (Option.filter_eq_some_iff.mp hx).2
    · intro x hx
      exact (Option.filter_eq_some_iff.mp hx).2
  all_goals exact trivial

theorem encode_filter_isFinite (x : Option Float) :
    (Codec.encode (x.filter Float.isFinite) : Value) = Codec.encode x := by
  cases x with
  | none => rfl
  | some x =>
    cases hFinite : x.isFinite with
    | true => rw [Option.filter_some_pos hFinite]
    | false =>
      rw [Option.filter_some_neg hFinite]
      exact (if_neg (Bool.eq_false_iff.mp hFinite)).symm

theorem encode_spelled (t : WritableType) (c : t.Carrier) : ∀ m ∈ Record.members (α := t.Carrier),
    m.codec.encode (m.get (t.spelled c)) = m.codec.encode (m.get c) := by
  cases t
  case outlet =>
    repeat' first
      | exact List.forall_mem_nil _
      | refine List.forall_mem_cons.mpr ⟨encode_filter_isFinite _, ?_⟩
      | refine List.forall_mem_cons.mpr ⟨rfl, ?_⟩
  all_goals exact fun _ _ => rfl

theorem bne_filter_isFinite_iff (o c : Option Float) :
    ((o != c) = true → (o != c.filter Float.isFinite) = true) ↔
      (o = none → ∀ x, c = some x → x.isFinite = true) := by
  cases c with
  | none => simp
  | some x =>
    cases hFinite : x.isFinite with
    | true =>
      rw [Option.filter_some_pos hFinite]
      exact ⟨fun _ _ _ h => Option.some.inj h ▸ hFinite, fun _ => id⟩
    | false =>
      rw [Option.filter_some_neg hFinite]
      cases o with
      | none =>
        have hUntold : ¬∀ y, some x = some y → y.isFinite = true :=
          fun h => Bool.eq_false_iff.mp hFinite (h x rfl)
        exact ⟨fun h => absurd (h rfl) (by decide), fun h => absurd (h rfl) hUntold⟩
      | some y => exact ⟨fun _ h => absurd h (Option.some_ne_none y), fun _ _ => rfl⟩

theorem isTold_iff (t : WritableType) (o c : t.Carrier) :
    t.IsTold o c ↔ ∀ p ∈ Updatable.properties (α := t.Carrier),
      p.changed o c = true → p.changed o (t.retaining o (t.spelled c)) = true := by
  cases t
  case computerSystem =>
    simp only [Updatable.properties, List.forall_mem_cons]
    constructor
    · intro hTold
      refine ⟨id, id, id, id, ?_, nofun⟩
      intro hChanged
      exact bne_iff_ne.mpr (hTold (bne_iff_ne.mp hChanged).symm).symm
    · rintro ⟨_, _, _, _, hBoot, _⟩ hNe
      exact (bne_iff_ne.mp (hBoot (bne_iff_ne.mpr hNe.symm))).symm
  case outlet =>
    simp only [Updatable.properties, List.forall_mem_cons]
    constructor
    · rintro ⟨hOn, hOff⟩
      exact ⟨id, id, (bne_filter_isFinite_iff _ _).mpr hOn, (bne_filter_isFinite_iff _ _).mpr hOff, nofun⟩
    · rintro ⟨_, _, hOn, hOff, _⟩
      exact ⟨(bne_filter_isFinite_iff _ _).mp hOn, (bne_filter_isFinite_iff _ _).mp hOff⟩
  all_goals exact ⟨fun _ _ _ => id, fun _ => trivial⟩

theorem decode_value_whole {t : WritableType} {p : Property t.Carrier} {m : Member t.Carrier}
    (hm : m ∈ Record.members (α := t.Carrier)) (hWhole : p.IsWhole t.IsFinite t.reals m)
    {o c : t.Carrier} {v : Value} (hv : p.value o c = .ok v) (levels : Nat)
    (standing : Option Outline) :
    m.codec.decode levels (amended Value.exactOutline v standing) = .ok (m.get (t.spelled c)) := by
  rw [decode_amended_whole hWhole hv, ← t.encode_spelled c m hm]
  exact hWhole.reads_back levels _ (t.isFinite_spelled c)

theorem decode_value_boot {levels : Nat} (hLevels : 2 < levels) (boot : α → Boot) {o c : α} {v : Value}
    (hv : (Property.byMembers "Boot" boot).value o c = .ok v) :
    Record.decode levels (amended Value.exactOutline v
      (some (Codec.encode (boot o) : Value).exactOutline)) = .ok ((boot o).overlay (boot c)) := by
  obtain rfl : .object ((boot o).sent (boot c)) = v :=
    (Boot.changedMembers_encode _ _).symm.trans (Except.ok.inj hv)
  exact Boot.decode_amended keepsCanonical_exactOutline hLevels
    ((boot o).preserves.reads_back levels hLevels) (boot c)

theorem IsBoot.get_spelled {t : WritableType} {p : Property t.Carrier} {boot : t.Carrier → Boot}
    (h : t.IsBoot p boot) (c : t.Carrier) : boot (t.spelled c) = boot c := by
  obtain rfl := h.type_eq
  rfl

theorem decode_value_told {t : WritableType} {p : Property t.Carrier}
    (hp : p ∈ Updatable.properties (α := t.Carrier)) {o c : t.Carrier} {v : Value}
    (hv : p.value o c = .ok v) :
    ∃ m, (Record.members (α := t.Carrier)).find? (·.name == p.name) = some m ∧ ∃ w,
      m.codec.decode (Decoder.levels - 1)
        (amended Value.exactOutline v ((Record.wire? p.name o).map Value.exactOutline)) = .ok w ∧
      ∀ after, m.get after = w → p.changed o after = p.changed o (t.retaining o (t.spelled c)) := by
  -- Boot is put into what stands there member by member, every other property in its place.
  by_cases hBoot : p.name = "Boot"
  · obtain ⟨boot, hIsBoot⟩ := t.isBoot_of_eq_boot hp hBoot
    obtain ⟨set, hMember⟩ := hIsBoot.exists_member
    have hRetaining := hIsBoot.retaining o (t.spelled c)
    rw [hIsBoot.get_spelled] at hRetaining
    obtain rfl := hIsBoot.property_eq
    rw [hBoot, Record.wire?_of_find? hMember]
    refine ⟨_, hMember, _, decode_value_boot (by decide) boot hv, ?_⟩
    intro after hGet
    change (boot o != boot after) = (boot o != boot (t.retaining o (t.spelled c)))
    rw [hRetaining]
    exact congrArg (boot o != ·) hGet
  · obtain ⟨m, hFound, hWhole⟩ := t.isWhole_of_ne_boot hp hBoot
    have hm := List.mem_of_find?_eq_some hFound
    refine ⟨m, hFound, _, decode_value_whole hm hWhole hv _ _, ?_⟩
    intro after hGet
    rw [← hWhole.name_eq] at hBoot
    exact hWhole.changed_congr _ _ _ _ rfl (hGet.trans (t.get_retaining o _ m hm hBoot).symm)

/-- What is sent for the properties that differ, put into the resource they were compared with, makes
these properties what can be told of them. -/
theorem receive_diff (t : WritableType) (o c : t.Carrier) :
    ∃ after, Record.receive (difference o c) o = .ok after ∧ ∀ p ∈ Updatable.properties (α := t.Carrier),
      p.changed o c = true → p.changed o after = p.changed o (t.retaining o (t.spelled c)) := by
  have hReads : ∀ n v, (difference o c).get? n = some v →
      ∃ m, (Record.members (α := t.Carrier)).find? (·.name == n) = some m ∧ ∃ w,
        m.codec.decode (Decoder.levels - 1)
          (amended Value.exactOutline v ((Record.wire? n o).map Value.exactOutline)) = .ok w := by
    intro n v hv
    obtain ⟨p, hp, rfl, _, hValue⟩ := (get?_difference o c n v).mp hv
    obtain ⟨m, hFound, w, hRead, _⟩ := decode_value_told hp hValue
    exact ⟨m, hFound, w, hRead⟩
  obtain ⟨after, hAfter, hMembers⟩ := Record.absorb_outlines
    (f := fun d => amended Value.exactOutline d.2 ((Record.wire? d.1 o).map Value.exactOutline))
    Outline.skip LawfulUpdatable.independent (sorted_difference o c).nodup hReads o
  refine ⟨after, hAfter, ?_⟩
  intro p hp hChanged
  obtain ⟨v, hv⟩ := LawfulUpdatable.encodes p hp o c
  have hDelta := get?_difference_name o c hp
  rw [if_pos hChanged, hv] at hDelta
  obtain ⟨m, hFound, w, hRead, hTold⟩ := decode_value_told hp hv
  obtain ⟨hm, hName⟩ := Record.name_of_find? hFound
  rw [← hName] at hDelta hRead
  have hGet := (hMembers m hm).2 _ hDelta
  exact hTold after (Except.ok.inj (hGet.symm.trans hRead))

theorem value_ne_empty {t : WritableType} {o c : t.Carrier} {p : Property t.Carrier}
    (hp : p ∈ Updatable.properties (α := t.Carrier))
    (hTold : p.changed o (t.retaining o (t.spelled c)) = true) : p.value o c ≠ .ok (.object []) := by
  intro hEmpty
  by_cases hBoot : p.name = "Boot"
  · obtain ⟨boot, hIsBoot⟩ := t.isBoot_of_eq_boot hp hBoot
    have hRetaining := hIsBoot.retaining o (t.spelled c)
    rw [hIsBoot.get_spelled] at hRetaining
    obtain rfl := hIsBoot.property_eq
    have hSent : (boot o).sent (boot c) = [] := Value.object.inj (Except.ok.inj hEmpty)
    rw [(Boot.sent_eq_nil_iff _ _).mp hSent] at hRetaining
    exact bne_iff_ne.mp hTold hRetaining.symm
  · obtain ⟨m, hFound, hWhole⟩ := t.isWhole_of_ne_boot hp hBoot
    refine hWhole.not_object (m.get c) ?_
    rw [Except.ok.inj ((hWhole.value_eq o c).symm.trans hEmpty)]
    exact trivial

/-- The delta says something new about every property that it names exactly if all of the difference
can be told. -/
theorem diff_tells_iff {t : WritableType} {o c after : t.Carrier}
    (hAfter : ∀ p ∈ Updatable.properties (α := t.Carrier),
      p.changed o c = true → p.changed o after = p.changed o (t.retaining o (t.spelled c))) :
    (∀ n v, (difference o c).get? n = some v → v ≠ .object [] ∧ (n, true) ∈ t.comparison o after) ↔
      t.IsTold o c := by
  rw [isTold_iff]
  constructor
  · intro hTells p hp hChanged
    obtain ⟨v, hv⟩ := LawfulUpdatable.encodes p hp o c
    have hDelta := get?_difference_name o c hp
    rw [if_pos hChanged, hv] at hDelta
    rw [← hAfter p hp hChanged]
    exact (mem_comparison_iff hp o after).mp (hTells _ _ hDelta).2
  · intro hTold n v hv
    obtain ⟨p, hp, rfl, hChanged, hValue⟩ := (get?_difference o c n v).mp hv
    constructor
    · rintro rfl
      exact value_ne_empty hp (hTold p hp hChanged) hValue
    · rw [mem_comparison_iff hp o after, hAfter p hp hChanged]
      exact hTold p hp hChanged

theorem difference_withEntity (t : WritableType) (e : Entity) (o c : t.Carrier) :
    difference (Resource.withEntity e o) c = difference o c := by
  cases t <;> rfl

end WritableType

theorem requestsOf_of_illegal [Updatable α] {current : α} {tag : String}
    (hTag : (Resource.entity current).ifMatch = some tag)
    (hIllegal : Http.HeaderValue.ofText? tag = none) : requestsOf current = [] := by
  have hCondition : ∃ err, (Resource.entity current).condition = .error err := by
    unfold Entity.condition
    simp only [hTag, hIllegal]
    exact ⟨_, rfl⟩
  obtain ⟨err, hCondition⟩ := hCondition
  have hRun := update_run current MemoryService.empty
  unfold requestsOf
  generalize (update current : Call MemoryService Unit) .empty = run at hRun
  cases hRun with
  | unknown | unchanged | detached | illegal => rfl
  | sent _ _ hSendable =>
    rw [hCondition] at hSendable
    cases hSendable

theorem eq_ofDelta_of_mem_requestsOf [Updatable α] [LawfulUpdatable α] {current baseline : α}
    {body : Bytes} (hHolds : (Resource.entity current).Holds body)
    (hRead : Resource.ofBytes body = .ok baseline) {request : ReceivedRequest}
    (hSent : request ∈ requestsOf current) :
    difference baseline current ≠ [] ∧
      request = .ofDelta (Resource.entity current) (difference baseline current) := by
  by_cases hTag : ∀ tag, (Resource.entity current).ifMatch = some tag →
      (Http.HeaderValue.ofText? tag).isSome = true
  · rw [requestsOf_eq hHolds hRead hTag] at hSent
    split at hSent
    · cases hSent
    · rename_i hChanged
      exact ⟨hChanged, List.mem_singleton.mp hSent⟩
  · push Not at hTag
    obtain ⟨tag, hIfMatch, hIllegal⟩ := hTag
    rw [requestsOf_of_illegal hIfMatch (by simpa using hIllegal)] at hSent
    cases hSent

/-- The body of an update names the properties that differ. Put into the fetched resource, it changes
every one of them, and none of its members is an empty object, unless the difference cannot be told. -/
theorem update_tells_iff_isTold (t : WritableType) {uri : String} {service service' : MemoryService}
    {fetched live : t.Carrier}
    (hFetch : (getObject uri : Call MemoryService t.Carrier) service = (.ok fetched, service'))
    (hAttached : (Resource.entity live).isAttached = (Resource.entity fetched).isAttached)
    (hRaw : (Resource.entity live).raw = (Resource.entity fetched).raw)
    {request : ReceivedRequest} (hSent : request ∈ requestsOf live) :
    ∃ (delta : Object) (after : t.Carrier), request.body = (Value.object delta).render ∧ delta ≠ [] ∧
      (∀ n, (∃ v, delta.get? n = some v) ↔ (n, true) ∈ t.comparison fetched live) ∧
      Record.receive delta fetched = .ok after ∧
      ((∀ n v, delta.get? n = some v → v ≠ .object [] ∧ (n, true) ∈ t.comparison fetched after) ↔
        t.IsTold fetched live) := by
  obtain ⟨body, baseline, _, hRead, rfl⟩ := getObject_memory hFetch
  have hEntity : Resource.entity (Resource.attach uri body baseline) =
      (Resource.entity baseline).attach uri body :=
    LawfulUpdatable.entity_withEntity _ _
  rw [hEntity] at hAttached hRaw
  obtain ⟨hChanged, rfl⟩ := eq_ofDelta_of_mem_requestsOf ⟨hAttached, hRaw⟩ hRead hSent
  have hDiff : difference (Resource.attach uri body baseline) live = difference baseline live :=
    t.difference_withEntity _ baseline live
  rw [← hDiff] at hChanged ⊢
  obtain ⟨after, hAfter, hTold⟩ := t.receive_diff (Resource.attach uri body baseline) live
  exact ⟨_, after, rfl, hChanged, (t.isMinimalDelta_difference _ live).named, hAfter,
    WritableType.diff_tells_iff hTold⟩

theorem update_tells_boot_target :
    let document := Bytes.ofText
      "\x7b\"@odata.id\":\"/s\",\"Boot\":\x7b\"BootSourceOverrideTarget\":\"Pxe\",\"BootOrder\":[\"a\"]\x7d\x7d"
    ∃ (fetched : ComputerSystem) (service' : MemoryService),
      (getObject "/s" : Call MemoryService ComputerSystem) (.insert "/s" document .empty) =
        (.ok fetched, service') ∧
      let live := { fetched with boot := ⟨none, some .hdd, none, []⟩ }
      ∃ (delta : Object) (after : ComputerSystem),
        requestsOf live = [⟨.patch, "/s", (Value.object delta).render, none⟩] ∧
        Record.receive delta fetched = .ok after ∧
        ∀ n v, delta.get? n = some v → v ≠ .object [] ∧
          (n, true) ∈ WritableType.computerSystem.comparison fetched after := by
  intro document
  refine ⟨_, _, rfl, ?_⟩
  intro live
  obtain ⟨delta, after, hBody, _, _, hAfter, hTells⟩ :=
    @update_tells_iff_isTold .computerSystem "/s" (.insert "/s" document .empty) _ _ live rfl rfl rfl
      ⟨.patch, "/s", Bytes.ofText "\x7b\"Boot\":\x7b\"BootSourceOverrideTarget\":\"Hdd\"\x7d\x7d", none⟩
      (List.mem_singleton.mpr rfl)
  refine ⟨delta, after, ?_, hAfter, hTells.mpr fun _ => by decide⟩
  rw [← hBody]
  rfl

/-- The target is taken away, and nothing is told of it. -/
theorem update_sends_empty_boot :
    let document := Bytes.ofText
      "\x7b\"@odata.id\":\"/s\",\"Boot\":\x7b\"BootSourceOverrideTarget\":\"Pxe\"\x7d\x7d"
    ∃ (fetched : ComputerSystem) (service' : MemoryService),
      (getObject "/s" : Call MemoryService ComputerSystem) (.insert "/s" document .empty) =
        (.ok fetched, service') ∧
      requestsOf { fetched with boot := Record.blank } =
        [⟨.patch, "/s", Bytes.ofText "\x7b\"Boot\":\x7b\x7d\x7d", none⟩] :=
  ⟨_, _, rfl, rfl⟩

end Redfish
