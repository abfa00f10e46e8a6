import Redfish.Resource
import Redfish.Schema.Link
import Redfish.Schema.Status

/-!
# Power equipment
-/

namespace Redfish

open Json

structure PowerEquipment where
  entity : Entity
  status : Status
  rackPdus : Option Link
  floorPdus : Option Link
  transferSwitches : Option Link
  deriving DecidableEq, Repr

namespace PowerEquipment

instance : Resource PowerEquipment where
  blank := ⟨Record.blank, Record.blank, none, none, none⟩
  members := [
    .always "Status" (·.status) fun v p => { p with status := v },
    .optional "RackPDUs" (·.rackPdus) fun v p => { p with rackPdus := v },
    .optional "FloorPDUs" (·.floorPdus) fun v p => { p with floorPdus := v },
    .optional "TransferSwitches" (·.transferSwitches) fun v p => { p with transferSwitches := v }]
  entity := (·.entity)
  withEntity e p := { p with entity := e }

end PowerEquipment

end Redfish
