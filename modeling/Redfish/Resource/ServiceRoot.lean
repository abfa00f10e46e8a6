import Redfish.Resource
import Redfish.Schema.Link

/-!
# The service root
-/

namespace Redfish

open Json

structure ServiceRoot where
  entity : Entity
  redfishVersion : Option String
  uuid : Option String
  vendor : Option String
  product : Option String
  chassis : Option Link
  systems : Option Link
  managers : Option Link
  powerEquipment : Option Link
  deriving DecidableEq, Repr

namespace ServiceRoot

def path : String := "/redfish/v1"

instance : Resource ServiceRoot where
  blank := ⟨Record.blank, none, none, none, none, none, none, none, none⟩
  members := [
    .optional "RedfishVersion" (·.redfishVersion) fun v r => { r with redfishVersion := v },
    .optional "UUID" (·.uuid) fun v r => { r with uuid := v },
    .optional "Vendor" (·.vendor) fun v r => { r with vendor := v },
    .optional "Product" (·.product) fun v r => { r with product := v },
    .optional "Chassis" (·.chassis) fun v r => { r with chassis := v },
    .optional "Systems" (·.systems) fun v r => { r with systems := v },
    .optional "Managers" (·.managers) fun v r => { r with managers := v },
    .optional "PowerEquipment" (·.powerEquipment) fun v r => { r with powerEquipment := v }]
  entity := (·.entity)
  withEntity e r := { r with entity := e }

end ServiceRoot

end Redfish
