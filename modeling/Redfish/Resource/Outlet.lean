import Redfish.Schema.Indicator
import Redfish.Schema.Status
import Redfish.Update

/-!
# Outlets
-/

namespace Redfish

open Json

structure Outlet where
  entity : Entity
  outletType : Option String
  nominalVoltage : Option String
  ratedCurrentAmps : Option Float
  powerState : Option PowerState
  userLabel : Option String
  locationIndicatorActive : Option Bool
  powerOnDelaySeconds : Option Float
  powerOffDelaySeconds : Option Float
  status : Status
  deriving BEq, Repr

namespace Outlet

instance : Updatable Outlet where
  blank := ⟨Record.blank, none, none, none, none, none, none, none, none, Record.blank⟩
  members := [
    .optional "OutletType" (·.outletType) fun v o => { o with outletType := v },
    .optional "NominalVoltage" (·.nominalVoltage) fun v o => { o with nominalVoltage := v },
    .optional "RatedCurrentAmps" (·.ratedCurrentAmps) fun v o => { o with ratedCurrentAmps := v },
    .optional "PowerState" (·.powerState) fun v o => { o with powerState := v },
    .optional "UserLabel" (·.userLabel) fun v o => { o with userLabel := v },
    .optional "LocationIndicatorActive" (·.locationIndicatorActive)
      fun v o => { o with locationIndicatorActive := v },
    .optional "PowerOnDelaySeconds" (·.powerOnDelaySeconds)
      fun v o => { o with powerOnDelaySeconds := v },
    .optional "PowerOffDelaySeconds" (·.powerOffDelaySeconds)
      fun v o => { o with powerOffDelaySeconds := v },
    .always "Status" (·.status) fun v o => { o with status := v }]
  entity := (·.entity)
  withEntity e o := { o with entity := e }
  typeName := "Outlet"
  properties := [
    .whole "UserLabel" (·.userLabel),
    .whole "LocationIndicatorActive" (·.locationIndicatorActive),
    .whole "PowerOnDelaySeconds" (·.powerOnDelaySeconds),
    .whole "PowerOffDelaySeconds" (·.powerOffDelaySeconds)]

end Outlet

end Redfish
