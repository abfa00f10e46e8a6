import Redfish.Schema.Indicator
import Redfish.Schema.Status
import Redfish.Update

/-!
# Managers
-/

namespace Redfish

open Json

inductive ManagerType
  | managementController
  | enclosureManager
  | bmc
  | rackManager
  | auxiliaryController
  | service
  | fabricManager
  | unknown
  deriving DecidableEq, Repr

instance : Enumeration ManagerType where
  listed := [("ManagementController", .managementController),
    ("EnclosureManager", .enclosureManager), ("BMC", .bmc), ("RackManager", .rackManager),
    ("AuxiliaryController", .auxiliaryController), ("Service", .service),
    ("FabricManager", .fabricManager)]
  unlisted := .unknown

instance : Codec ManagerType := Enumeration.codec

structure Manager where
  entity : Entity
  managerType : Option ManagerType
  model : Option String
  firmwareVersion : Option String
  uuid : Option String
  dateTime : Option String
  dateTimeLocalOffset : Option String
  serviceIdentification : Option String
  powerState : Option PowerState
  status : Status
  deriving DecidableEq, Repr

namespace Manager

instance : Updatable Manager where
  blank := ⟨Record.blank, none, none, none, none, none, none, none, none, Record.blank⟩
  members := [
    .optional "ManagerType" (·.managerType) fun v m => { m with managerType := v },
    .optional "Model" (·.model) fun v m => { m with model := v },
    .optional "FirmwareVersion" (·.firmwareVersion) fun v m => { m with firmwareVersion := v },
    .optional "UUID" (·.uuid) fun v m => { m with uuid := v },
    .optional "DateTime" (·.dateTime) fun v m => { m with dateTime := v },
    .optional "DateTimeLocalOffset" (·.dateTimeLocalOffset)
      fun v m => { m with dateTimeLocalOffset := v },
    .optional "ServiceIdentification" (·.serviceIdentification)
      fun v m => { m with serviceIdentification := v },
    .optional "PowerState" (·.powerState) fun v m => { m with powerState := v },
    .always "Status" (·.status) fun v m => { m with status := v }]
  entity := (·.entity)
  withEntity e m := { m with entity := e }
  typeName := "Manager"
  properties := [
    .whole "DateTime" (·.dateTime),
    .whole "DateTimeLocalOffset" (·.dateTimeLocalOffset),
    .whole "ServiceIdentification" (·.serviceIdentification)]

end Manager

end Redfish
