import Redfish.Navigation
import Redfish.Proofs.Update.Boot
import Redfish.Proofs.Update.Property

/-!
# The types that can be updated

The six types of resources with writable properties, and that each of them keeps the laws that tie its
properties to the members it is read from. All but the boot settings are plain values and sent whole.
-/

namespace Redfish

open Json

instance : LawfulEnumeration IndicatorLed := ⟨fun a => by cases a <;> rfl⟩

inductive WritableType
  | chassis
  | computerSystem
  | manager
  | powerDistribution
  | circuit
  | outlet
  deriving DecidableEq, Repr

namespace WritableType

@[reducible] def Carrier : WritableType → Type
  | chassis => Chassis
  | computerSystem => ComputerSystem
  | manager => Manager
  | powerDistribution => PowerDistribution
  | circuit => Circuit
  | outlet => Outlet

instance updatable : (t : WritableType) → Updatable t.Carrier
  | chassis => inferInstanceAs (Updatable Chassis)
  | computerSystem => inferInstanceAs (Updatable ComputerSystem)
  | manager => inferInstanceAs (Updatable Manager)
  | powerDistribution => inferInstanceAs (Updatable PowerDistribution)
  | circuit => inferInstanceAs (Updatable Circuit)
  | outlet => inferInstanceAs (Updatable Outlet)

/-- The wire names of the writable properties, each with whether two resources differ in it. -/
def comparison : (t : WritableType) → (baseline current : t.Carrier) → List (String × Bool)
  | chassis, b, c => [
    ("AssetTag", b.assetTag != c.assetTag),
    ("IndicatorLED", b.indicatorLed != c.indicatorLed),
    ("LocationIndicatorActive", b.locationIndicatorActive != c.locationIndicatorActive)]
  | computerSystem, b, c => [
    ("AssetTag", b.assetTag != c.assetTag),
    ("HostName", b.hostName != c.hostName),
    ("IndicatorLED", b.indicatorLed != c.indicatorLed),
    ("LocationIndicatorActive", b.locationIndicatorActive != c.locationIndicatorActive),
    ("Boot", b.boot != c.boot)]
  | manager, b, c => [
    ("DateTime", b.dateTime != c.dateTime),
    ("DateTimeLocalOffset", b.dateTimeLocalOffset != c.dateTimeLocalOffset),
    ("ServiceIdentification", b.serviceIdentification != c.serviceIdentification)]
  | powerDistribution, b, c => [
    ("AssetTag", b.assetTag != c.assetTag),
    ("UserLabel", b.userLabel != c.userLabel)]
  | circuit, b, c => [
    ("CriticalCircuit", b.criticalCircuit != c.criticalCircuit),
    ("UserLabel", b.userLabel != c.userLabel),
    ("LocationIndicatorActive", b.locationIndicatorActive != c.locationIndicatorActive)]
  | outlet, b, c => [
    ("UserLabel", b.userLabel != c.userLabel),
    ("LocationIndicatorActive", b.locationIndicatorActive != c.locationIndicatorActive),
    ("PowerOnDelaySeconds", b.powerOnDelaySeconds != c.powerOnDelaySeconds),
    ("PowerOffDelaySeconds", b.powerOffDelaySeconds != c.powerOffDelaySeconds)]

/-- The resource `c`, with those boot settings of `o` that `c` leaves out. -/
def retaining : (t : WritableType) → (o c : t.Carrier) → t.Carrier
  | computerSystem, o, c => { c with boot := o.boot.overlay c.boot }
  | chassis, _, c | manager, _, c | powerDistribution, _, c | circuit, _, c | outlet, _, c => c

def IsFinite : (t : WritableType) → t.Carrier → Prop
  | outlet, o => (∀ x, o.powerOnDelaySeconds = some x → x.isFinite = true) ∧
      ∀ x, o.powerOffDelaySeconds = some x → x.isFinite = true
  | _, _ => True

def reals : (t : WritableType) → t.Carrier → List (String × Float)
  | outlet, o => (o.powerOnDelaySeconds.map ("PowerOnDelaySeconds", ·)).toList ++
      (o.powerOffDelaySeconds.map ("PowerOffDelaySeconds", ·)).toList
  | _, _ => []

theorem comparison_eq (t : WritableType) (b c : t.Carrier) :
    t.comparison b c = Updatable.properties.map fun p => (p.name, p.changed b c) := by
  cases t <;> rfl

instance (t : WritableType) : LawfulUpdatable t.Carrier where
  independent := by
    apply Record.independent_of_pairwise
    · cases t <;> decide
    · cases t <;> repeat' first
        | exact List.forall_mem_nil _
        | refine List.forall_mem_cons.mpr ⟨fun _ _ => rfl, ?_⟩
    · cases t <;> repeat' first
        | exact List.Pairwise.nil
        | refine List.Pairwise.cons ?_ ?_
        | exact List.forall_mem_nil _
        | refine List.forall_mem_cons.mpr ⟨⟨fun _ _ => rfl, fun _ _ => rfl⟩, ?_⟩
  entity_withEntity e a := by cases t <;> rfl
  get_withEntity := by
    cases t <;> repeat' first
      | exact List.forall_mem_nil _
      | refine List.forall_mem_cons.mpr ⟨fun _ _ => rfl, ?_⟩
  properties_ne_nil := by cases t <;> exact List.cons_ne_nil _ _
  nodup := by cases t <;> decide
  encodes := by
    cases t <;> repeat' first
      | exact List.forall_mem_nil _
      | refine List.forall_mem_cons.mpr ⟨fun _ _ => ⟨_, rfl⟩, ?_⟩
  outside_identity := by cases t <;> decide

theorem mem_comparison_iff {t : WritableType} {p : Property t.Carrier}
    (hp : p ∈ Updatable.properties (α := t.Carrier)) (b c : t.Carrier) :
    (p.name, true) ∈ t.comparison b c ↔ p.changed b c = true := by
  rw [comparison_eq, List.mem_map]
  constructor
  · rintro ⟨q, hq, h⟩
    obtain ⟨hName, hChanged⟩ := Prod.mk.inj h
    obtain rfl := List.inj_on_of_nodup_map LawfulUpdatable.nodup hq hp hName
    exact hChanged
  · intro hChanged
    exact ⟨p, hp, by rw [hChanged]⟩

theorem isWhole_of_ne_boot (t : WritableType) {p : Property t.Carrier}
    (hp : p ∈ Updatable.properties (α := t.Carrier)) (hBoot : p.name ≠ "Boot") :
    ∃ m, (Record.members (α := t.Carrier)).find? (·.name == p.name) = some m ∧
      p.IsWhole t.IsFinite t.reals m := by
  cases t <;> simp only [Updatable.properties, List.mem_cons, List.not_mem_nil, or_false] at hp
  case chassis =>
    rcases hp with rfl | rfl | rfl
    · exact ⟨_, rfl, Property.isWhole_text ..⟩
    · exact ⟨_, rfl, Property.isWhole_enumeration ..⟩
    · exact ⟨_, rfl, Property.isWhole_bool ..⟩
  case computerSystem =>
    rcases hp with rfl | rfl | rfl | rfl | rfl
    · exact ⟨_, rfl, Property.isWhole_text ..⟩
    · exact ⟨_, rfl, Property.isWhole_text ..⟩
    · exact ⟨_, rfl, Property.isWhole_enumeration ..⟩
    · exact ⟨_, rfl, Property.isWhole_bool ..⟩
    · exact absurd rfl hBoot
  case manager =>
    rcases hp with rfl | rfl | rfl <;> exact ⟨_, rfl, Property.isWhole_text ..⟩
  case powerDistribution =>
    rcases hp with rfl | rfl <;> exact ⟨_, rfl, Property.isWhole_text ..⟩
  case circuit =>
    rcases hp with rfl | rfl | rfl
    · exact ⟨_, rfl, Property.isWhole_bool ..⟩
    · exact ⟨_, rfl, Property.isWhole_text ..⟩
    · exact ⟨_, rfl, Property.isWhole_bool ..⟩
  case outlet =>
    rcases hp with rfl | rfl | rfl | rfl
    · exact ⟨_, rfl, Property.isWhole_text ..⟩
    · exact ⟨_, rfl, Property.isWhole_bool ..⟩
    · exact ⟨_, rfl, Property.isWhole_real _ _ _ (fun _ h => h.1) fun _ _ => by simp [reals]⟩
    · exact ⟨_, rfl, Property.isWhole_real _ _ _ (fun _ h => h.2) fun _ _ => by simp [reals]⟩

theorem get_retaining (t : WritableType) (o c : t.Carrier) : ∀ m ∈ Record.members (α := t.Carrier),
    m.name ≠ "Boot" → m.get (t.retaining o c) = m.get c := by
  cases t <;> repeat' first
    | exact List.forall_mem_nil _
    | refine List.forall_mem_cons.mpr ⟨fun _ => rfl, ?_⟩
    | refine List.forall_mem_cons.mpr ⟨fun hBoot => absurd rfl hBoot, ?_⟩

structure IsBoot (t : WritableType) (p : Property t.Carrier) (boot : t.Carrier → Boot) : Prop where
  type_eq : t = computerSystem
  property_eq : p = .byMembers "Boot" boot
  exists_member : ∃ set, (Record.members (α := t.Carrier)).find? (·.name == "Boot") =
    some (.always "Boot" boot set)
  blank : boot Record.blank = Record.blank
  retaining : ∀ o c, boot (t.retaining o c) = (boot o).overlay (boot c)

theorem isBoot_of_eq_boot (t : WritableType) {p : Property t.Carrier}
    (hp : p ∈ Updatable.properties (α := t.Carrier)) (hBoot : p.name = "Boot") :
    ∃ boot, t.IsBoot p boot := by
  have hNone : t ≠ computerSystem →
      ∀ q ∈ Updatable.properties (α := t.Carrier), q.name ≠ "Boot" := by
    cases t <;> decide
  cases t
  case computerSystem =>
    simp only [Updatable.properties, List.mem_cons, List.not_mem_nil, or_false] at hp
    rcases hp with rfl | rfl | rfl | rfl | rfl
    case inr.inr.inr.inr =>
      exact ⟨ComputerSystem.boot, rfl, rfl, ⟨_, rfl⟩, rfl, fun _ _ => rfl⟩
    all_goals exact absurd hBoot (by decide)
  all_goals exact absurd hBoot (hNone (by decide) p hp)

end WritableType

end Redfish
