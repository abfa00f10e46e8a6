import Redfish.Schema.Link
import Redfish.Schema.Status
import Redfish.Update

/-!
# Power distribution units and transfer switches
-/

namespace Redfish

open Json

inductive PowerEquipmentType
  | rackPdu
  | floorPdu
  | manualTransferSwitch
  | automaticTransferSwitch
  | switchgear
  | powerShelf
  | bus
  | batteryShelf
  | unknown
  deriving DecidableEq, Repr

instance : Enumeration PowerEquipmentType where
  listed := [("RackPDU", .rackPdu), ("FloorPDU", .floorPdu),
    ("ManualTransferSwitch", .manualTransferSwitch),
    ("AutomaticTransferSwitch", .automaticTransferSwitch), ("Switchgear", .switchgear),
    ("PowerShelf", .powerShelf), ("Bus", .bus), ("BatteryShelf", .batteryShelf)]
  unlisted := .unknown

instance : Codec PowerEquipmentType := Enumeration.codec

structure PowerDistribution where
  entity : Entity
  equipmentType : Option PowerEquipmentType
  manufacturer : Option String
  model : Option String
  serialNumber : Option String
  firmwareVersion : Option String
  assetTag : Option String
  userLabel : Option String
  status : Status
  mains : Option Link
  branches : Option Link
  feeders : Option Link
  outlets : Option Link
  sensors : Option Link
  deriving DecidableEq, Repr

namespace PowerDistribution

instance : Updatable PowerDistribution where
  blank := ⟨Record.blank, none, none, none, none, none, none, none, Record.blank, none, none, none,
    none, none⟩
  members := [
    .optional "EquipmentType" (·.equipmentType) fun v p => { p with equipmentType := v },
    .optional "Manufacturer" (·.manufacturer) fun v p => { p with manufacturer := v },
    .optional "Model" (·.model) fun v p => { p with model := v },
    .optional "SerialNumber" (·.serialNumber) fun v p => { p with serialNumber := v },
    .optional "FirmwareVersion" (·.firmwareVersion) fun v p => { p with firmwareVersion := v },
    .optional "AssetTag" (·.assetTag) fun v p => { p with assetTag := v },
    .optional "UserLabel" (·.userLabel) fun v p => { p with userLabel := v },
    .always "Status" (·.status) fun v p => { p with status := v },
    .optional "Mains" (·.mains) fun v p => { p with mains := v },
    .optional "Branches" (·.branches) fun v p => { p with branches := v },
    .optional "Feeders" (·.feeders) fun v p => { p with feeders := v },
    .optional "Outlets" (·.outlets) fun v p => { p with outlets := v },
    .optional "Sensors" (·.sensors) fun v p => { p with sensors := v }]
  entity := (·.entity)
  withEntity e p := { p with entity := e }
  typeName := "PowerDistribution"
  properties := [
    .whole "AssetTag" (·.assetTag),
    .whole "UserLabel" (·.userLabel)]

end PowerDistribution

end Redfish
