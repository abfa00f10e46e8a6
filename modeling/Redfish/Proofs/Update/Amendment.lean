import Redfish.Proofs.Json.Real
import Redfish.Proofs.Resource
import Redfish.Proofs.Update.Delta

/-!
# What an update does to the document

A service that puts the delta in place of the members of its document has a document of the edited
resource. What is not writable stays as it was in the document, whatever the resource held there. Only a
real may come back as another one: its text is the shortest that stands for it, and the reader rounds
some of these texts once more.
-/

namespace Redfish

open Json

/-- What is sent, in place of what stands there. Members of an object are put into the object that stands
there, which is created if there is none. -/
def amended (arrives : Value → Outline) : Value → Option Outline → Outline
  | .object sent, some (.object standing close) =>
    .object (Members.amend (fun v _ => arrives v) sent standing) close
  | .object sent, none => .object (Members.amend (fun v _ => arrives v) sent []) .closed
  | v, _ => arrives v

variable {arrives : Value → Outline}

theorem amended_of_not_object {v : Value} (h : ¬v.IsObject) (standing : Option Outline) :
    amended arrives v standing = arrives v := by
  cases v with
  | object => exact absurd trivial h
  | null | bool | number | text | array => rfl

theorem Json.ReadsAs.decode {x y : Float} (h : ReadsAs x y) (levels : Nat) :
    (Codec.decode : Decoder (Option Float)) levels (Codec.encode x : Value).outline = .ok (some y) := by
  have hDecode : Decoder.real Decoder.levels (Codec.encode x : Value).outline = .ok y :=
    Decoder.decode_of_run h
  cases hOutline : (Codec.encode x : Value).outline with
  | number n =>
    rw [hOutline] at hDecode
    exact map_eq_ok_iff.mpr ⟨y, hDecode, rfl⟩
  | word | text | array | object | missing =>
    rw [hOutline] at hDecode
    cases hDecode

section

variable [Updatable α] [LawfulUpdatable α] {levels inner : Nat} {ms : List (Text × Outline)}
  {close : Close} {o : α}

theorem Resource.decode_member (hInner : deeper levels = .ok inner)
    (h : Resource.decode levels (.object ms close) = .ok o) {m : Member α}
    (hm : m ∈ Record.members (α := α)) {x : Outline} (hFound : Members.find? m.name ms = some x) :
    m.codec.decode inner x = .ok (m.get o) := by
  obtain ⟨b, e, hAbsorb, _, _, rfl⟩ := (Resource.decode_object_iff hInner).mp h
  rw [LawfulUpdatable.get_withEntity m hm]
  exact Record.decode_of_absorb LawfulUpdatable.independent hAbsorb hm hFound

theorem Resource.get_absent (hInner : deeper levels = .ok inner)
    (h : Resource.decode levels (.object ms close) = .ok o) {m : Member α}
    (hm : m ∈ Record.members (α := α)) (hAbsent : Members.find? m.name ms = none) :
    m.get o = m.get Record.blank := by
  obtain ⟨b, e, hAbsorb, _, _, rfl⟩ := (Resource.decode_object_iff hInner).mp h
  rw [LawfulUpdatable.get_withEntity m hm]
  exact Record.get_of_absorb LawfulUpdatable.independent hAbsorb hm hAbsent

/-- A resource is read again after its writable members were put into its document. The identity and
the members that were not touched are as they were. -/
theorem Resource.decode_amended (revise : Value → Option Outline → Outline) {delta : Object}
    (hNodup : (delta.map (·.1)).Nodup) (hInner : deeper levels = .ok inner)
    (h : Resource.decode levels (.object ms close) = .ok o)
    (hDelta : ∀ n v, delta.get? n = some v → ∃ p ∈ Updatable.properties (α := α), p.name = n ∧
      ∃ m, (Record.members (α := α)).find? (·.name == n) = some m ∧
        ∃ w, m.codec.decode inner (revise v (Members.find? n ms)) = .ok w) :
    ∃ o', Resource.decode levels (.object (Members.amend revise delta ms) close) = .ok o' ∧
      Resource.entity o' = Resource.entity o ∧ ∀ m ∈ Record.members (α := α),
        (delta.get? m.name = none → m.get o' = m.get o) ∧
        ∀ v, delta.get? m.name = some v →
          m.codec.decode inner (revise v (Members.find? m.name ms)) = .ok (m.get o') := by
  obtain ⟨b, e, hAbsorb, hClose, hEntity, rfl⟩ := (Resource.decode_object_iff hInner).mp h
  obtain ⟨b', hb', hMembers⟩ := Record.absorb_amend LawfulUpdatable.independent revise hNodup hAbsorb
    (fun n v hv => by
      obtain ⟨_, _, _, m, hm⟩ := hDelta n v hv
      exact ⟨m, hm⟩)
  have hOutside : ∀ d ∈ delta, (Record.members (α := Entity)).find? (·.name == d.1) = none := by
    intro d hd
    obtain ⟨p, hp, hName, _⟩ := hDelta d.1 d.2 (Table.get?_of_mem hNodup hd)
    rw [← hName]
    exact LawfulUpdatable.outside_identity p hp
  refine ⟨Resource.withEntity e b', ?_, ?_, ?_⟩
  · refine (Resource.decode_object_iff hInner).mpr ⟨b', e, hb', hClose, ?_, rfl⟩
    rw [Record.absorb_amend_of_unknown hOutside]
    exact hEntity
  · rw [LawfulUpdatable.entity_withEntity, LawfulUpdatable.entity_withEntity]
  · intro m hm
    rw [LawfulUpdatable.get_withEntity m hm, LawfulUpdatable.get_withEntity m hm]
    exact hMembers m hm

end

namespace WritableType

variable {t : WritableType} {ms : List (Text × Outline)} {close : Close} {o c : t.Carrier}

theorem decode_amended_whole {p : Property t.Carrier} {m : Member t.Carrier}
    (hWhole : p.IsWhole t.IsFinite t.reals m) {v : Value} (hv : p.value o c = .ok v) (levels : Nat)
    (standing : Option Outline) :
    m.codec.decode levels (amended arrives v standing) =
      m.codec.decode levels (arrives (m.codec.encode (m.get c))) := by
  obtain rfl := Except.ok.inj ((hWhole.value_eq o c).symm.trans hv)
  rw [amended_of_not_object (hWhole.not_object _)]

theorem decode_amended_boot (hArrives : KeepsCanonical arrives) {levels inner : Nat}
    (hLevels : deeper levels = .ok inner) (hInner : 2 < inner)
    (hRead : Resource.decode levels (.object ms close) = .ok o)
    (hObject : ∀ x, Members.find? "Boot" ms = some x → x.IsObject) {p : Property t.Carrier}
    {boot : t.Carrier → Boot} (hIsBoot : t.IsBoot p boot) {v : Value} (hv : p.value o c = .ok v) :
    Record.decode inner (amended arrives v (Members.find? "Boot" ms)) =
      .ok ((boot o).overlay (boot c)) := by
  obtain ⟨set, hMember⟩ := hIsBoot.exists_member
  have hMem := List.mem_of_find?_eq_some hMember
  obtain rfl := hIsBoot.property_eq
  obtain rfl : .object ((boot o).sent (boot c)) = v :=
    (Boot.changedMembers_encode _ _).symm.trans (Except.ok.inj hv)
  cases hFound : Members.find? "Boot" ms with
  | none =>
    have hBlank : boot o = Record.blank :=
      (Resource.get_absent hLevels hRead hMem hFound).trans hIsBoot.blank
    have hCreated : Record.decode inner (.object [] .closed) = .ok (boot o) := by
      rw [hBlank]
      exact Record.decode_object_iff.mpr ⟨inner - 1, if_neg (by omega), rfl, rfl⟩
    exact Boot.decode_amended hArrives hInner hCreated (boot c)
  | some x =>
    have hStanding := Resource.decode_member hLevels hRead hMem hFound
    cases x with
    | object standing close => exact Boot.decode_amended hArrives hInner hStanding (boot c)
    | word | number | text | array | missing => exact absurd (hObject _ hFound) id

theorem isFinite_of_mem_reals (hFinite : t.IsFinite c) {n : String} {x : Float}
    (h : (n, x) ∈ t.reals c) : x.isFinite = true := by
  cases t
  case outlet =>
    rcases List.mem_append.mp h with h | h
    · obtain ⟨y, hy, hEq⟩ := Option.map_eq_some_iff.mp (Option.mem_toList.mp h)
      cases hEq
      exact hFinite.1 _ hy
    · obtain ⟨y, hy, hEq⟩ := Option.map_eq_some_iff.mp (Option.mem_toList.mp h)
      cases hEq
      exact hFinite.2 _ hy
  all_goals cases h

/-- What is written for a property that is sent whole is read as the property, or as the real that the
text of a real is read as. -/
theorem decode_outline_whole {p : Property t.Carrier} {m : Member t.Carrier}
    (hWhole : p.IsWhole t.IsFinite t.reals m) (hFinite : t.IsFinite c) :
    ∃ w, (∀ levels, m.codec.decode levels (m.codec.encode (m.get c)).outline = .ok w) ∧
      (w = m.get c ∨ ∃ x y, (p.name, x) ∈ t.reals c ∧ ReadsAs x y ∧ ¬ReadsAs x x ∧
        ∀ a, m.get a = w → (p.name, y) ∈ t.reals a) := by
  rcases hWhole.written with hPlain | ⟨get, set, rfl, hGet⟩
  · refine ⟨m.get c, fun levels => ?_, .inl rfl⟩
    rw [(hPlain levels c).outline_eq]
    exact hWhole.reads_back levels c hFinite
  · change ∃ w, (∀ levels, (Codec.decode : Decoder (Option Float)) levels
      (Codec.encode (get c) : Value).outline = .ok w) ∧ (w = get c ∨ _)
    cases hx : get c with
    | none => exact ⟨none, fun _ => rfl, .inl rfl⟩
    | some x =>
      have hMem := (hGet c x).mpr hx
      obtain ⟨y, hy⟩ := exists_readsAs (isFinite_of_mem_reals hFinite hMem)
      refine ⟨some y, hy.decode, ?_⟩
      by_cases hBack : ReadsAs x x
      · exact .inl (congrArg some (Except.ok.inj (hy.symm.trans hBack)))
      · exact .inr ⟨x, y, hMem, hy, hBack, fun a ha => (hGet a y).mpr ha⟩

/-- The members of `o'` are those of `o`, or were read from what the delta put in their place. -/
structure IsReread (t : WritableType) (inner : Nat) (ms : List (Text × Outline)) (o c o' : t.Carrier) :
    Prop where
  kept : ∀ m ∈ Record.members (α := t.Carrier), (difference o c).get? m.name = none → m.get o' = m.get o
  sent : ∀ m ∈ Record.members (α := t.Carrier), ∀ v, (difference o c).get? m.name = some v →
    m.codec.decode inner (amended Value.outline v (Members.find? m.name ms)) = .ok (m.get o')

section

variable {inner : Nat} {o' : t.Carrier} {p : Property t.Carrier}

theorem not_changed_boot (hReread : t.IsReread inner ms o c o')
    (hp : p ∈ Updatable.properties (α := t.Carrier)) {boot : t.Carrier → Boot} (hIsBoot : t.IsBoot p boot)
    (hRead : ∀ v, p.value o c = .ok v →
      Record.decode inner (amended Value.outline v (Members.find? "Boot" ms)) =
        .ok ((boot o).overlay (boot c))) :
    p.changed o' (t.retaining o c) = false := by
  obtain ⟨set, hMember⟩ := hIsBoot.exists_member
  have hMem := List.mem_of_find?_eq_some hMember
  obtain ⟨v, hv⟩ := LawfulUpdatable.encodes p hp o c
  have hOverlay := hRead v hv
  have hDelta := get?_difference_name o c hp
  rw [hv] at hDelta
  obtain rfl := hIsBoot.property_eq
  have hResult : boot o' = (boot o).overlay (boot c) := by
    split at hDelta
    · exact Except.ok.inj ((hReread.sent _ hMem v hDelta).symm.trans hOverlay)
    · rename_i hSame
      have hEqual : boot o = boot c := by simpa [Property.byMembers] using hSame
      rw [← hEqual, Boot.overlay_self]
      exact hReread.kept _ hMem hDelta
  change (boot o' != boot (t.retaining o c)) = false
  rw [hResult, hIsBoot.retaining, bne_self_eq_false]

theorem real_of_changed_whole (hReread : t.IsReread inner ms o c o') (hFinite : t.IsFinite c)
    (hp : p ∈ Updatable.properties (α := t.Carrier)) (hName : p.name ≠ "Boot")
    (hDiffers : p.changed o' (t.retaining o c) = true) :
    ∃ x y, (p.name, x) ∈ t.reals c ∧ (p.name, y) ∈ t.reals o' ∧ ReadsAs x y ∧ ¬ReadsAs x x := by
  obtain ⟨m, hFound, hWhole⟩ := t.isWhole_of_ne_boot hp hName
  have hMem := List.mem_of_find?_eq_some hFound
  have hRetained := t.get_retaining o c m hMem (hWhole.name_eq ▸ hName)
  have hKept := hReread.kept m hMem
  have hSent := hReread.sent m hMem
  rw [hWhole.name_eq] at hKept hSent
  obtain ⟨v, hv⟩ := LawfulUpdatable.encodes p hp o c
  have hDelta := get?_difference_name o c hp
  rw [hv] at hDelta
  split at hDelta
  · obtain ⟨w, hRead, hw⟩ := decode_outline_whole hWhole hFinite
    have hGet : m.get o' = w := by
      have hStanding := hSent v hDelta
      rw [decode_amended_whole hWhole hv, hRead] at hStanding
      exact (Except.ok.inj hStanding).symm
    rcases hw with rfl | ⟨x, y, hx, hy, hBack, hw⟩
    · rw [hWhole.changed_congr _ c _ c hGet hRetained, hWhole.not_changed_self c hFinite] at hDiffers
      cases hDiffers
    · exact ⟨x, y, hx, hw o' hGet, hy, hBack⟩
  · rename_i hSame
    rw [hWhole.changed_congr _ o _ c (hKept hDelta) hRetained] at hDiffers
    exact absurd hDiffers hSame

end

end WritableType

/-- The delta, put into the document that a resource was read from, makes it a document of the resource
as it was edited, but for the boot settings that were cleared and for the reals that are read as others.
Nothing else in the document changes. -/
theorem decode_document_with_delta (t : WritableType) {bs : Bytes} {ms : List (Text × Outline)}
    (hSpells : Spells bs ms) {o : t.Carrier} (hRead : Resource.ofBytes bs = .ok o)
    (hObject : t = .computerSystem → ∀ x, Members.find? "Boot" ms = some x → x.IsObject)
    {c : t.Carrier} (hFinite : t.IsFinite c) :
    ∃ delta, diff o c = .ok delta ∧
      ∀ bs', Spells bs' (Members.amend (amended Value.outline) delta ms) →
        ∃ o', Resource.ofBytes bs' = .ok o' ∧
          (∀ n, (n, true) ∈ t.comparison o' (t.retaining o c) →
            ∃ x y, (n, x) ∈ t.reals c ∧ (n, y) ∈ t.reals o' ∧ ReadsAs x y ∧ ¬ReadsAs x x) ∧
          Resource.entity o' = Resource.entity o ∧
          ∀ m ∈ Record.members (α := t.Carrier),
            (∀ p ∈ Updatable.properties (α := t.Carrier), p.name ≠ m.name) → m.get o' = m.get o := by
  refine ⟨difference o c, diff_eq o c, ?_⟩
  intro bs' hSpells'
  have hInner : deeper Decoder.levels = .ok 127 := rfl
  have hDecode : Resource.decode Decoder.levels (.object ms .closed) = .ok o :=
    (hSpells.run_eq _).symm.trans hRead
  have hBoot : ∀ p ∈ Updatable.properties (α := t.Carrier), ∀ boot, t.IsBoot p boot →
      ∀ v, p.value o c = .ok v →
        Record.decode 127 (amended Value.outline v (Members.find? "Boot" ms)) =
          .ok ((boot o).overlay (boot c)) := fun p _ boot hIsBoot v hv =>
    WritableType.decode_amended_boot keepsCanonical_outline hInner (by decide) hDecode
      (hObject hIsBoot.type_eq) hIsBoot hv
  have hDelta : ∀ n v, (difference o c).get? n = some v →
      ∃ p ∈ Updatable.properties (α := t.Carrier), p.name = n ∧
        ∃ m, (Record.members (α := t.Carrier)).find? (·.name == n) = some m ∧
          ∃ w, m.codec.decode 127 (amended Value.outline v (Members.find? n ms)) = .ok w := by
    intro n v hv
    obtain ⟨p, hp, rfl, hChanged, hValue⟩ := (get?_difference o c n v).mp hv
    refine ⟨p, hp, rfl, ?_⟩
    by_cases hName : p.name = "Boot"
    · obtain ⟨boot, hIsBoot⟩ := t.isBoot_of_eq_boot hp hName
      obtain ⟨set, hMember⟩ := hIsBoot.exists_member
      rw [hName]
      exact ⟨_, hMember, _, hBoot p hp boot hIsBoot v hValue⟩
    · obtain ⟨m, hFound, hWhole⟩ := t.isWhole_of_ne_boot hp hName
      obtain ⟨w, hw, _⟩ := WritableType.decode_outline_whole hWhole hFinite
      exact ⟨m, hFound, w, (WritableType.decode_amended_whole hWhole hValue _ _).trans (hw _)⟩
  obtain ⟨o', hRead', hEntity, hMembers⟩ := Resource.decode_amended (amended Value.outline)
    (sorted_difference o c).nodup hInner hDecode hDelta
  refine ⟨o', (hSpells'.run_eq _).trans hRead', ?_, hEntity, ?_⟩
  · intro n hn
    rw [WritableType.comparison_eq] at hn
    obtain ⟨p, hp, hEq⟩ := List.mem_map.mp hn
    obtain ⟨rfl, hDiffers⟩ := Prod.mk.inj hEq
    have hReread : t.IsReread 127 ms o c o' := ⟨fun m hm => (hMembers m hm).1, fun m hm => (hMembers m hm).2⟩
    by_cases hName : p.name = "Boot"
    · obtain ⟨boot, hIsBoot⟩ := t.isBoot_of_eq_boot hp hName
      have hSame := WritableType.not_changed_boot hReread hp hIsBoot (hBoot p hp boot hIsBoot)
      rw [hSame] at hDiffers
      cases hDiffers
    · exact WritableType.real_of_changed_whole hReread hFinite hp hName hDiffers
  · intro m hm hOther
    refine (hMembers m hm).1 ?_
    rw [Option.eq_none_iff_forall_ne_some]
    intro v hv
    obtain ⟨p, hp, hName, _⟩ := (get?_difference o c m.name v).mp hv
    exact hOther p hp hName

theorem amended_real {x : Float} {s : String} (hFinite : x.isFinite = true)
    (hWritten : realNotation.write x = s) (standing : Option Outline) :
    amended Value.outline (Codec.encode x) standing = (Outline.read (Bytes.ofText s)).1 := by
  have hEncoded : (Codec.encode x : Value) = .number (.real x) := if_pos hFinite
  rw [hEncoded, ← hWritten]
  rfl

/-- A delay that is a real in between two that are read from texts as short as this one: it is put into
the document as it is written, and another one is read. -/
theorem delay_is_read_as_another :
    let document := Bytes.ofText "\x7b\"UserLabel\":\"a\"\x7d"
    let delayed := Bytes.ofText "\x7b\"UserLabel\":\"a\",\"PowerOnDelaySeconds\":51.248178375505404\x7d"
    ∃ (ms : List (Text × Outline)) (o c o' : Outlet) (delta : Object),
      Spells document ms ∧ Resource.ofBytes document = .ok o ∧
      c = { o with powerOnDelaySeconds := some 51.248178375505404 } ∧ WritableType.outlet.IsFinite c ∧
      diff o c = .ok delta ∧ Spells delayed (Members.amend (amended Value.outline) delta ms) ∧
      Resource.ofBytes delayed = .ok o' ∧ o'.powerOnDelaySeconds = some 51.24817837550541 ∧
      ("PowerOnDelaySeconds", true) ∈ WritableType.outlet.comparison o' c := by
  intro document delayed
  have hDelay : amended Value.outline (Codec.encode (51.248178375505404 : Float)) none =
      (Outline.read (Bytes.ofText "51.248178375505404")).1 :=
    amended_real (by decide +kernel) (by decide +kernel) _
  refine ⟨[(.plain "UserLabel", .text (.plain "a"))], _, _, _,
    [("PowerOnDelaySeconds", Codec.encode (51.248178375505404 : Float))], ⟨[], rfl, rfl⟩, rfl, rfl,
    ⟨?_, nofun⟩, rfl, ⟨[], ?_, rfl⟩, rfl, congrArg some (by decide +kernel), by decide +kernel⟩
  · rintro x ⟨⟩
    decide +kernel
  · change _ = (Outline.object [(.plain "UserLabel", .text (.plain "a")),
      (.plain "PowerOnDelaySeconds", amended Value.outline (Codec.encode 51.248178375505404) none)]
      .closed, _)
    rw [hDelay]
    rfl

/-- Two delays and a label are put into a document. One of the delays is read as another, nothing else
is. -/
theorem delays_are_amended :
    let document := Bytes.ofText "\x7b\"UserLabel\":\"a\",\"PowerOffDelaySeconds\":null\x7d"
    let delayed := Bytes.ofText
      "\x7b\"UserLabel\":\"b\",\"PowerOffDelaySeconds\":2.5,\"PowerOnDelaySeconds\":51.248178375505404\x7d"
    ∃ o c o' : Outlet, Resource.ofBytes document = .ok o ∧ Resource.ofBytes delayed = .ok o' ∧
      c = { o with
        userLabel := some "b"
        powerOnDelaySeconds := some 51.248178375505404
        powerOffDelaySeconds := some 2.5 } ∧
      (∀ n, (n, true) ∈ WritableType.outlet.comparison o' c → n = "PowerOnDelaySeconds") ∧
      Resource.entity o' = Resource.entity o := by
  intro document delayed
  let ms : List (Text × Outline) :=
    [(.plain "UserLabel", .text (.plain "a")), (.plain "PowerOffDelaySeconds", .word .null none)]
  have hSpells : Spells document ms := ⟨[], rfl, rfl⟩
  have hBack : ReadsAs 2.5 2.5 := by
    unfold ReadsAs
    decide +kernel
  have hOff : amended Value.outline (Codec.encode (2.5 : Float)) (some (.word .null none)) =
      (Outline.read (Bytes.ofText "2.5")).1 :=
    amended_real (by decide +kernel) (by decide +kernel) _
  have hOn : amended Value.outline (Codec.encode (51.248178375505404 : Float)) none =
      (Outline.read (Bytes.ofText "51.248178375505404")).1 :=
    amended_real (by decide +kernel) (by decide +kernel) _
  obtain ⟨o, hRead⟩ : ∃ o : Outlet, o = { (Record.blank : Outlet) with userLabel := some "a" } :=
    ⟨_, rfl⟩
  obtain ⟨c, hEdited⟩ : ∃ c : Outlet, c = { o with
    userLabel := some "b"
    powerOnDelaySeconds := some 51.248178375505404
    powerOffDelaySeconds := some 2.5 } := ⟨_, rfl⟩
  have hSent : diff o c = .ok [("PowerOffDelaySeconds", Codec.encode (2.5 : Float)),
      ("PowerOnDelaySeconds", Codec.encode (51.248178375505404 : Float)),
      ("UserLabel", .text "b")] := by
    rw [hEdited, hRead]
    rfl
  have hFinite : WritableType.outlet.IsFinite c := by
    rw [hEdited]
    constructor <;> rintro x ⟨⟩ <;> decide +kernel
  have hReals : ∀ n x, (n, x) ∈ WritableType.outlet.reals c →
      n = "PowerOnDelaySeconds" ∧ x = 51.248178375505404 ∨ x = 2.5 := by
    intro n x hx
    rw [hEdited] at hx
    rcases List.mem_pair.mp hx with h | h <;> cases h
    · exact .inl ⟨rfl, rfl⟩
    · exact .inr rfl
  obtain ⟨delta, hDelta, hAmended⟩ := decode_document_with_delta .outlet hSpells (o := o)
    (by rw [hRead]; rfl) nofun hFinite
  obtain rfl := Except.ok.inj (hSent.symm.trans hDelta)
  obtain ⟨o', hRead', hOthers, hEntity, _⟩ := hAmended delayed ⟨[], by
    change _ = (Outline.object [(.plain "UserLabel", .text (.plain "b")),
      (.plain "PowerOffDelaySeconds", amended Value.outline (Codec.encode (2.5 : Float))
        (some (.word .null none))),
      (.plain "PowerOnDelaySeconds", amended Value.outline
        (Codec.encode (51.248178375505404 : Float)) none)] .closed, _)
    rw [hOff, hOn]
    rfl, rfl⟩
  refine ⟨o, c, o', by rw [hRead]; rfl, hRead', hEdited, ?_, hEntity⟩
  intro n hn
  obtain ⟨x, y, hx, _, _, hDiffers⟩ := hOthers n hn
  rcases hReals n x hx with ⟨rfl, _⟩ | rfl
  · rfl
  · exact absurd hBack hDiffers

end Redfish
