import Redfish.Schema.Boot
import Redfish.Schema.Indicator
import Redfish.Schema.Link
import Redfish.Schema.Status
import Redfish.Update

/-!
# Computer systems
-/

namespace Redfish

open Json

structure ProcessorSummary where
  count : Option UInt32
  model : Option String
  deriving DecidableEq, Repr

instance : Record ProcessorSummary where
  blank := ⟨none, none⟩
  members := [
    .optional "Count" (·.count) fun v p => { p with count := v },
    .optional "Model" (·.model) fun v p => { p with model := v }]

instance : Codec ProcessorSummary := Record.codec

structure MemorySummary where
  totalSystemMemoryGiB : Option Float
  deriving BEq, Repr

instance : Record MemorySummary where
  blank := ⟨none⟩
  members := [.optional "TotalSystemMemoryGiB" (·.totalSystemMemoryGiB) fun v _ => ⟨v⟩]

instance : Codec MemorySummary := Record.codec

structure ComputerSystemLinks where
  chassis : List Link
  managedBy : List Link
  deriving DecidableEq, Repr

instance : Record ComputerSystemLinks where
  blank := ⟨[], []⟩
  members := [
    .always "Chassis" (·.chassis) fun v l => { l with chassis := v },
    .always "ManagedBy" (·.managedBy) fun v l => { l with managedBy := v }]

instance : Codec ComputerSystemLinks := Record.codec

structure ComputerSystem where
  entity : Entity
  systemType : Option String
  manufacturer : Option String
  model : Option String
  serialNumber : Option String
  uuid : Option String
  biosVersion : Option String
  assetTag : Option String
  hostName : Option String
  indicatorLed : Option IndicatorLed
  locationIndicatorActive : Option Bool
  powerState : Option PowerState
  boot : Boot
  processorSummary : ProcessorSummary
  memorySummary : MemorySummary
  status : Status
  links : ComputerSystemLinks
  deriving BEq, Repr

namespace ComputerSystem

instance : Updatable ComputerSystem where
  blank := ⟨Record.blank, none, none, none, none, none, none, none, none, none, none, none,
    Record.blank, Record.blank, Record.blank, Record.blank, Record.blank⟩
  members := [
    .optional "SystemType" (·.systemType) fun v s => { s with systemType := v },
    .optional "Manufacturer" (·.manufacturer) fun v s => { s with manufacturer := v },
    .optional "Model" (·.model) fun v s => { s with model := v },
    .optional "SerialNumber" (·.serialNumber) fun v s => { s with serialNumber := v },
    .optional "UUID" (·.uuid) fun v s => { s with uuid := v },
    .optional "BiosVersion" (·.biosVersion) fun v s => { s with biosVersion := v },
    .optional "AssetTag" (·.assetTag) fun v s => { s with assetTag := v },
    .optional "HostName" (·.hostName) fun v s => { s with hostName := v },
    .optional "IndicatorLED" (·.indicatorLed) fun v s => { s with indicatorLed := v },
    .optional "LocationIndicatorActive" (·.locationIndicatorActive)
      fun v s => { s with locationIndicatorActive := v },
    .optional "PowerState" (·.powerState) fun v s => { s with powerState := v },
    .always "Boot" (·.boot) fun v s => { s with boot := v },
    .always "ProcessorSummary" (·.processorSummary) fun v s => { s with processorSummary := v },
    .always "MemorySummary" (·.memorySummary) fun v s => { s with memorySummary := v },
    .always "Status" (·.status) fun v s => { s with status := v },
    .always "Links" (·.links) fun v s => { s with links := v }]
  entity := (·.entity)
  withEntity e s := { s with entity := e }
  typeName := "ComputerSystem"
  properties := [
    .whole "AssetTag" (·.assetTag),
    .whole "HostName" (·.hostName),
    .whole "IndicatorLED" (·.indicatorLed),
    .whole "LocationIndicatorActive" (·.locationIndicatorActive),
    .byMembers "Boot" (·.boot)]

def setBootOnce (target : BootSource) (s : ComputerSystem) : ComputerSystem :=
  { s with boot := s.boot.once target }

end ComputerSystem

end Redfish
