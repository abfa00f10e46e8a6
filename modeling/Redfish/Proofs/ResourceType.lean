import Redfish.Proofs.Resource
import Redfish.Proofs.Update.Writable
import Redfish.Resource.Sensor

/-!
# The types of resources

The nine types of resources, six of which can be updated. Each of them is no more than its members and its
identity, so what is read from its documents is decided by the members that it models.
-/

namespace Redfish

open Json

namespace Status

theorem independent : Record.Independent (Record.members (α := Status)) := by
  apply Record.independent_of_pairwise
  · decide
  · simp [Record.members, Member.optional]
  · simp [Record.members, Member.optional]

theorem eq_of_members {a b : Status} (h : ∀ m ∈ Record.members (α := Status), m.get a = m.get b) :
    a = b := by
  simp only [Record.members, List.forall_mem_cons] at h
  obtain ⟨hHealth, hState, _⟩ := h
  cases a
  cases b
  simp_all [Member.optional]

instance : LawfulRecord Status := ⟨independent, fun _ _ => eq_of_members⟩

end Status

namespace WritableType

variable {t : WritableType}

theorem entity_set : ∀ m ∈ Record.members (α := t.Carrier), ∀ v (a : t.Carrier),
    Resource.entity (m.set v a) = Resource.entity a := by
  cases t <;> repeat' first
    | exact List.forall_mem_nil _
    | refine List.forall_mem_cons.mpr ⟨fun _ _ => rfl, ?_⟩

theorem eq_of_members {a b : t.Carrier} (h : ∀ m ∈ Record.members (α := t.Carrier), m.get a = m.get b)
    (hEntity : Resource.entity a = Resource.entity b) : a = b := by
  cases t <;> simp only [Record.members, List.forall_mem_cons] at h <;> cases a <;> cases b <;>
    simp_all [Member.always, Member.optional, Resource.entity]

end WritableType

inductive ResourceType
  | writable (type : WritableType)
  | serviceRoot
  | powerEquipment
  | sensor
  deriving DecidableEq, Repr

namespace ResourceType

@[reducible] def Carrier : ResourceType → Type
  | writable t => t.Carrier
  | serviceRoot => ServiceRoot
  | powerEquipment => PowerEquipment
  | sensor => Sensor

instance resource : (t : ResourceType) → Resource t.Carrier
  | writable t => (WritableType.updatable t).toResource
  | serviceRoot => inferInstanceAs (Resource ServiceRoot)
  | powerEquipment => inferInstanceAs (Resource PowerEquipment)
  | sensor => inferInstanceAs (Resource Sensor)

variable {t : ResourceType}

theorem entity_withEntity (e : Entity) (a : t.Carrier) : Resource.entity (Resource.withEntity e a) = e := by
  cases t with
  | writable t => exact LawfulUpdatable.entity_withEntity e a
  | serviceRoot | powerEquipment | sensor => rfl

theorem independent : Record.Independent (Record.members (α := t.Carrier)) := by
  cases t with
  | writable t => exact LawfulUpdatable.independent
  | serviceRoot | powerEquipment | sensor =>
    apply Record.independent_of_pairwise
    · decide
    · simp [Record.members, Member.always, Member.optional]
    · simp [Record.members, Member.always, Member.optional]

theorem get_withEntity : ∀ m ∈ Record.members (α := t.Carrier), ∀ e (a : t.Carrier),
    m.get (Resource.withEntity e a) = m.get a := by
  cases t with
  | writable t => exact LawfulUpdatable.get_withEntity
  | serviceRoot | powerEquipment | sensor =>
    simp [Record.members, Member.always, Member.optional, Resource.withEntity]

theorem entity_set : ∀ m ∈ Record.members (α := t.Carrier), ∀ v (a : t.Carrier),
    Resource.entity (m.set v a) = Resource.entity a := by
  cases t with
  | writable t => exact WritableType.entity_set
  | serviceRoot | powerEquipment | sensor =>
    simp [Record.members, Member.always, Member.optional, Resource.entity]

theorem outside_identity : ∀ m ∈ Record.members (α := t.Carrier),
    (Record.members (α := Entity)).find? (·.name == m.name) = none := by
  cases t with
  | writable t => cases t <;> decide
  | serviceRoot | powerEquipment | sensor => decide

theorem eq_of_members {a b : t.Carrier} (h : ∀ m ∈ Record.members (α := t.Carrier), m.get a = m.get b)
    (hEntity : Resource.entity a = Resource.entity b) : a = b := by
  cases t with
  | writable t => exact WritableType.eq_of_members h hEntity
  | serviceRoot | powerEquipment | sensor =>
    simp only [Record.members, List.forall_mem_cons] at h
    cases a
    cases b
    simp_all [Member.always, Member.optional, Resource.entity]

instance (t : ResourceType) : ExtensionalResource t.Carrier where
  entity_withEntity := entity_withEntity
  independent := independent
  get_withEntity := get_withEntity
  entity_set := entity_set
  outside_identity := outside_identity
  ext _ _ := eq_of_members

end ResourceType

/-- A document is read by the members that its type models. Their order does not count, nor do other members
between them, and a text in place of one of an enumeration changes the value at that place alone: it is the
one that the text names, or the one kept for every other name. -/
theorem resource_read_from_modelled_members (t : ResourceType) {bs : Bytes} {a : t.Carrier}
    (hRead : Resource.ofBytes bs = .ok a) :
    (∃ ms, Spells bs ms) ∧ ∀ ms, Spells bs ms →
      (∀ bs' ms' extra, Spells bs' ms' → ms'.Perm (ms ++ extra) →
        (∀ p ∈ extra, Resource.Unmodelled t.Carrier (Decoder.levels - 1) p) →
          Resource.ofBytes bs' = .ok a) ∧
      ∀ m ∈ Record.members (α := t.Carrier), ∀ (p : Place m.codec) (name : String) (x x' : Outline)
        (before after : List (Text × Outline)) (text : Text) (bs' : Bytes),
        ms = before ++ (text, x) :: after → text.content = .ok m.name → p.Renamed name x x' →
        Spells bs' (before ++ (text, x') :: after) →
          Resource.ofBytes bs' = .ok (m.set (p.put name (m.get a)) a) := by
  have hInner : deeper Decoder.levels = .ok (Decoder.levels - 1) := rfl
  refine ⟨Resource.exists_spells hRead, ?_⟩
  intro ms hSpells
  rw [Resource.ofBytes, hSpells.run_eq] at hRead
  constructor
  · intro bs' ms' extra hSpells' hPerm hExtra
    rw [Resource.ofBytes, hSpells'.run_eq]
    exact Resource.decode_perm_append hInner hRead hPerm hExtra
  · rintro m hm p name x x' before after text bs' rfl hName hRenamed hSpells'
    rw [Resource.ofBytes, hSpells'.run_eq]
    exact Resource.decode_renamed hInner hRead hm hName hRenamed

theorem computer_system_read_beside_vendor_member :
    let document := Bytes.ofText
      "\x7b\"@odata.id\":\"/s\",\"Boot\":\x7b\"BootSourceOverrideTarget\":\"Pxe\"\x7d,\"PowerState\":\"On\"\x7d"
    let shuffled := Bytes.ofText
      "\x7b\"PowerState\":\"On\",\"Oem\":[1],\"@odata.id\":\"/s\",\"Boot\":\x7b\"BootSourceOverrideTarget\":\"Pxe\"\x7d\x7d"
    let renamed := Bytes.ofText
      "\x7b\"@odata.id\":\"/s\",\"Boot\":\x7b\"BootSourceOverrideTarget\":\"Tape\"\x7d,\"PowerState\":\"On\"\x7d"
    ∃ s : ComputerSystem, Resource.ofBytes document = .ok s ∧ s.boot.overrideTarget = some .pxe ∧
      Resource.ofBytes shuffled = .ok s ∧
      Resource.ofBytes renamed =
        .ok { s with boot := { s.boot with overrideTarget := some BootSource.unknown } } := by
  intro document shuffled renamed
  have hRead : (Resource.ofBytes document : Except Fault ComputerSystem) = .ok _ := rfl
  obtain ⟨_, hDecides⟩ := resource_read_from_modelled_members (.writable .computerSystem) hRead
  let target := fun name => (Text.plain "BootSourceOverrideTarget", Outline.text (.plain name))
  let boot := fun name => (Text.plain "Boot", Outline.object [target name] .closed)
  let identity := (Text.plain "@odata.id", Outline.text (.plain "/s"))
  let power := (Text.plain "PowerState", Outline.text (.plain "On"))
  let vendor := (Text.plain "Oem", Outline.array [.number ⟨.ok (.integer 1), none⟩] none)
  have hSpells : Spells document [identity, boot "Pxe", power] := ⟨[], rfl, rfl⟩
  have hShuffled : Spells shuffled [power, vendor, identity, boot "Pxe"] := ⟨[], rfl, rfl⟩
  have hRenamed : Spells renamed [identity, boot "Tape", power] := ⟨[], rfl, rfl⟩
  obtain ⟨hOrder, hNames⟩ := hDecides _ hSpells
  have hVendor : Resource.Unmodelled ComputerSystem (Decoder.levels - 1) vendor :=
    ⟨⟨"Oem", rfl, by decide, by decide⟩, .array rfl (List.forall_mem_singleton.mpr (.number rfl))⟩
  refine ⟨_, hRead, rfl, hOrder _ _ [vendor] hShuffled ?_ (List.forall_mem_singleton.mpr hVendor), ?_⟩
  · exact (List.perm_append_comm : ([power, vendor] ++ [identity, boot "Pxe"]).Perm _)
  · have hTarget := List.mem_of_getElem? (rfl : (Record.members (α := Boot))[1]? = some _)
    have hBoot := List.mem_of_getElem? (rfl : (Record.members (α := ComputerSystem))[11]? = some _)
    let place : Place (Record.codec (α := Boot)) := .within _ hTarget (.here (ε := BootSource))
    have hTape : place.Renamed "Tape" (.object ([] ++ target "Pxe" :: []) .closed)
        (.object ([] ++ target "Tape" :: []) .closed) := .member rfl (.here rfl rfl)
    exact hNames _ hBoot place "Tape" _ _ [identity] [power] _ _ rfl rfl hTape hRenamed

end Redfish
