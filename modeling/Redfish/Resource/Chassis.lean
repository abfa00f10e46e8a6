import Redfish.Schema.Indicator
import Redfish.Schema.Link
import Redfish.Schema.Status
import Redfish.Update

/-!
# Chassis

The physical containers of systems, power equipment and sensors.
-/

namespace Redfish

open Json

inductive ChassisType
  | rack
  | blade
  | enclosure
  | standAlone
  | rackMount
  | card
  | cartridge
  | row
  | pod
  | expansion
  | sidecar
  | zone
  | sled
  | shelf
  | drawer
  | module
  | component
  | ipBasedDrive
  | rackGroup
  | storageEnclosure
  | immersionTank
  | heatExchanger
  | powerStrip
  | other
  | unknown
  deriving DecidableEq, Repr

instance : Enumeration ChassisType where
  listed := [("Rack", .rack), ("Blade", .blade), ("Enclosure", .enclosure),
    ("StandAlone", .standAlone), ("RackMount", .rackMount), ("Card", .card),
    ("Cartridge", .cartridge), ("Row", .row), ("Pod", .pod), ("Expansion", .expansion),
    ("Sidecar", .sidecar), ("Zone", .zone), ("Sled", .sled), ("Shelf", .shelf),
    ("Drawer", .drawer), ("Module", .module), ("Component", .component),
    ("IPBasedDrive", .ipBasedDrive), ("RackGroup", .rackGroup),
    ("StorageEnclosure", .storageEnclosure), ("ImmersionTank", .immersionTank),
    ("HeatExchanger", .heatExchanger), ("PowerStrip", .powerStrip), ("Other", .other)]
  unlisted := .unknown

instance : Codec ChassisType := Enumeration.codec

structure ChassisLinks where
  computerSystems : List Link
  managedBy : List Link
  contains : List Link
  containedBy : Option Link
  deriving DecidableEq, Repr

instance : Record ChassisLinks where
  blank := ⟨[], [], [], none⟩
  members := [
    .always "ComputerSystems" (·.computerSystems) fun v l => { l with computerSystems := v },
    .always "ManagedBy" (·.managedBy) fun v l => { l with managedBy := v },
    .always "Contains" (·.contains) fun v l => { l with contains := v },
    .optional "ContainedBy" (·.containedBy) fun v l => { l with containedBy := v }]

instance : Codec ChassisLinks := Record.codec

structure Chassis where
  entity : Entity
  chassisType : Option ChassisType
  manufacturer : Option String
  model : Option String
  sku : Option String
  serialNumber : Option String
  partNumber : Option String
  assetTag : Option String
  indicatorLed : Option IndicatorLed
  locationIndicatorActive : Option Bool
  powerState : Option PowerState
  status : Status
  sensors : Option Link
  links : ChassisLinks
  deriving DecidableEq, Repr

namespace Chassis

instance : Updatable Chassis where
  blank := ⟨Record.blank, none, none, none, none, none, none, none, none, none, none, Record.blank,
    none, Record.blank⟩
  members := [
    .optional "ChassisType" (·.chassisType) fun v c => { c with chassisType := v },
    .optional "Manufacturer" (·.manufacturer) fun v c => { c with manufacturer := v },
    .optional "Model" (·.model) fun v c => { c with model := v },
    .optional "SKU" (·.sku) fun v c => { c with sku := v },
    .optional "SerialNumber" (·.serialNumber) fun v c => { c with serialNumber := v },
    .optional "PartNumber" (·.partNumber) fun v c => { c with partNumber := v },
    .optional "AssetTag" (·.assetTag) fun v c => { c with assetTag := v },
    .optional "IndicatorLED" (·.indicatorLed) fun v c => { c with indicatorLed := v },
    .optional "LocationIndicatorActive" (·.locationIndicatorActive)
      fun v c => { c with locationIndicatorActive := v },
    .optional "PowerState" (·.powerState) fun v c => { c with powerState := v },
    .always "Status" (·.status) fun v c => { c with status := v },
    .optional "Sensors" (·.sensors) fun v c => { c with sensors := v },
    .always "Links" (·.links) fun v c => { c with links := v }]
  entity := (·.entity)
  withEntity e c := { c with entity := e }
  typeName := "Chassis"
  properties := [
    .whole "AssetTag" (·.assetTag),
    .whole "IndicatorLED" (·.indicatorLed),
    .whole "LocationIndicatorActive" (·.locationIndicatorActive)]

end Chassis

end Redfish
