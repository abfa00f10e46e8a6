import Redfish.Proofs.Json.Reading
import Redfish.Proofs.Update.Writable
import Redfish.Resource.Sensor

/-!
# Enumerations by their names

Each listed value has one name, and the value kept for all other names has none. So what is read from a
text is written as the text if it is listed, and as `Unknown` if it is not.
-/

namespace Redfish

open Json

namespace Json.Enumeration

variable {α : Type} [DecidableEq α] [Enumeration α]

def names (α : Type) [DecidableEq α] [Enumeration α] : List String := (listed (α := α)).map (·.1)

theorem name_of_mem (hDistinct : ((listed (α := α)).map (·.2)).Nodup) {s : String} {a : α}
    (h : (s, a) ∈ listed) : name a = s := by
  unfold name
  cases hFound : (listed (α := α)).find? (·.2 = a) with
  | none => exact absurd (decide_eq_true rfl) (List.find?_eq_none.mp hFound (s, a) h)
  | some e =>
    have hValue : e.2 = a := by simpa using List.find?_some hFound
    have hEntry := List.inj_on_of_nodup_map hDistinct (List.mem_of_find?_eq_some hFound) h hValue
    rw [hEntry]

theorem name_of_not_mem {a : α} (h : a ∉ (listed (α := α)).map (·.2)) : name a = "Unknown" := by
  have hNone : (listed (α := α)).find? (·.2 = a) = none := by
    rw [List.find?_eq_none]
    intro e he hValue
    exact h (List.mem_map.mpr ⟨e, he, of_decide_eq_true hValue⟩)
  rw [name, hNone]

theorem ofName_of_not_mem {s : String} (h : s ∉ names α) : ofName s = (unlisted : α) := by
  have hNone : Table.get? (listed (α := α)) s = none := by
    rw [Table.get?_eq_none_iff]
    exact fun e he hName => h (List.mem_map.mpr ⟨e, he, hName⟩)
  exact congrArg (·.getD unlisted) hNone

/-- A listed name is kept, every other one is written as `Unknown`. -/
theorem name_ofName (hDistinct : (unlisted :: (listed (α := α)).map (·.2)).Nodup) (s : String) :
    name (ofName s : α) = if s ∈ names α then s else "Unknown" := by
  obtain ⟨hUnlisted, hListed⟩ := List.nodup_cons.mp hDistinct
  split
  · rename_i hName
    obtain ⟨e, he, rfl⟩ := List.mem_map.mp hName
    cases hValue : Table.get? (listed (α := α)) e.1 with
    | none => exact absurd rfl ((Table.get?_eq_none_iff _ _).mp hValue e he)
    | some a =>
      have hOfName : ofName e.1 = a := congrArg (·.getD unlisted) hValue
      rw [hOfName]
      exact name_of_mem hListed (Table.mem_of_get? hValue)
  · rename_i hName
    rw [ofName_of_not_mem hName]
    exact name_of_not_mem hUnlisted

end Json.Enumeration

inductive EnumerationType
  | health
  | state
  | indicatorLed
  | powerState
  | chassisType
  | circuitType
  | breakerState
  | bootSource
  | bootSourceOverrideEnabled
  | bootSourceOverrideMode
  | managerType
  | powerEquipmentType
  | readingType
  deriving DecidableEq, Repr

namespace EnumerationType

@[reducible] def Carrier : EnumerationType → Type
  | health => Health
  | state => State
  | indicatorLed => IndicatorLed
  | powerState => PowerState
  | chassisType => ChassisType
  | circuitType => CircuitType
  | breakerState => BreakerState
  | bootSource => BootSource
  | bootSourceOverrideEnabled => BootSourceOverrideEnabled
  | bootSourceOverrideMode => BootSourceOverrideMode
  | managerType => ManagerType
  | powerEquipmentType => PowerEquipmentType
  | readingType => ReadingType

instance decidableEq : (t : EnumerationType) → DecidableEq t.Carrier
  | health | state | indicatorLed | powerState | chassisType | circuitType | breakerState | bootSource
  | bootSourceOverrideEnabled | bootSourceOverrideMode | managerType | powerEquipmentType
  | readingType => inferInstance

instance enumeration : (t : EnumerationType) → Enumeration t.Carrier
  | health | state | indicatorLed | powerState | chassisType | circuitType | breakerState | bootSource
  | bootSourceOverrideEnabled | bootSourceOverrideMode | managerType | powerEquipmentType
  | readingType => inferInstance

instance codec : (t : EnumerationType) → Codec t.Carrier
  | health | state | indicatorLed | powerState | chassisType | circuitType | breakerState | bootSource
  | bootSourceOverrideEnabled | bootSourceOverrideMode | managerType | powerEquipmentType
  | readingType => inferInstance

instance lawful (t : EnumerationType) : LawfulEnumeration t.Carrier :=
  ⟨fun a => by cases t <;> cases a <;> rfl⟩

def wireNames : EnumerationType → List String
  | health => ["OK", "Warning", "Critical"]
  | state => ["Enabled", "Disabled", "StandbyOffline", "StandbySpare", "InTest", "Starting", "Absent",
    "UnavailableOffline", "Deferring", "Quiesced", "Updating", "Qualified"]
  | indicatorLed => ["Lit", "Blinking", "Off"]
  | powerState => ["On", "Off", "PoweringOn", "PoweringOff", "Paused"]
  | chassisType => ["Rack", "Blade", "Enclosure", "StandAlone", "RackMount", "Card", "Cartridge", "Row",
    "Pod", "Expansion", "Sidecar", "Zone", "Sled", "Shelf", "Drawer", "Module", "Component", "IPBasedDrive",
    "RackGroup", "StorageEnclosure", "ImmersionTank", "HeatExchanger", "PowerStrip", "Other"]
  | circuitType => ["Mains", "Branch", "Subfeed", "Feeder", "Bus"]
  | breakerState => ["Normal", "Tripped", "Off"]
  | bootSource => ["None", "Pxe", "Floppy", "Cd", "Usb", "Hdd", "BiosSetup", "Utilities", "Diags",
    "UefiShell", "UefiTarget", "SDCard", "UefiHttp", "RemoteDrive", "UefiBootNext", "Recovery"]
  | bootSourceOverrideEnabled => ["Disabled", "Once", "Continuous"]
  | bootSourceOverrideMode => ["Legacy", "UEFI"]
  | managerType => ["ManagementController", "EnclosureManager", "BMC", "RackManager",
    "AuxiliaryController", "Service", "FabricManager"]
  | powerEquipmentType => ["RackPDU", "FloorPDU", "ManualTransferSwitch", "AutomaticTransferSwitch",
    "Switchgear", "PowerShelf", "Bus", "BatteryShelf"]
  | readingType => ["Temperature", "Humidity", "Power", "EnergykWh", "EnergyJoules", "EnergyWh", "ChargeAh",
    "Voltage", "Current", "Frequency", "Pressure", "PressurekPa", "LiquidLevel", "Rotational", "AirFlow",
    "LiquidFlow", "Barometric", "Altitude", "Percent", "AbsoluteHumidity", "Heat"]

variable (t : EnumerationType)

theorem names_eq : Enumeration.names t.Carrier = t.wireNames := by
  cases t <;> rfl

theorem codec_eq : t.codec = Enumeration.codec := by
  cases t <;> rfl

theorem distinct : (Enumeration.unlisted :: (Enumeration.listed (α := t.Carrier)).map (·.2)).Nodup := by
  cases t <;> decide

theorem encode_eq (a : t.Carrier) : (Codec.encode a : Value) = .text (Enumeration.name a) := by
  rw [codec_eq]
  rfl

theorem name_ofName (s : String) :
    Enumeration.name (Enumeration.ofName s : t.Carrier) = if s ∈ t.wireNames then s else "Unknown" := by
  rw [← t.names_eq]
  exact Enumeration.name_ofName t.distinct s

theorem run_text (s : String) :
    (Codec.decode : Decoder t.Carrier).run (Value.text s).render = .ok (Enumeration.ofName s) := by
  rw [codec_eq]
  exact (Value.Canonical.text s).run_render rfl

end EnumerationType

instance : LawfulEnumeration Health := EnumerationType.lawful .health

instance : LawfulEnumeration State := EnumerationType.lawful .state

end Redfish
