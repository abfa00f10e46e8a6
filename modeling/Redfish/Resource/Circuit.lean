import Redfish.Schema.Indicator
import Redfish.Schema.Link
import Redfish.Schema.Status
import Redfish.Update

/-!
# Circuits

The mains, branches and feeders of a power distribution unit.
-/

namespace Redfish

open Json

inductive CircuitType
  | mains
  | branch
  | subfeed
  | feeder
  | bus
  | unknown
  deriving DecidableEq, Repr

instance : Enumeration CircuitType where
  listed := [("Mains", .mains), ("Branch", .branch), ("Subfeed", .subfeed), ("Feeder", .feeder),
    ("Bus", .bus)]
  unlisted := .unknown

instance : Codec CircuitType := Enumeration.codec

inductive BreakerState
  | normal
  | tripped
  | off
  | unknown
  deriving DecidableEq, Repr

instance : Enumeration BreakerState where
  listed := [("Normal", .normal), ("Tripped", .tripped), ("Off", .off)]
  unlisted := .unknown

instance : Codec BreakerState := Enumeration.codec

structure CircuitLinks where
  outlets : List Link
  branchCircuit : Option Link
  sourceCircuit : Option Link
  deriving DecidableEq, Repr

instance : Record CircuitLinks where
  blank := ⟨[], none, none⟩
  members := [
    .always "Outlets" (·.outlets) fun v l => { l with outlets := v },
    .optional "BranchCircuit" (·.branchCircuit) fun v l => { l with branchCircuit := v },
    .optional "SourceCircuit" (·.sourceCircuit) fun v l => { l with sourceCircuit := v }]

instance : Codec CircuitLinks := Record.codec

structure Circuit where
  entity : Entity
  circuitType : Option CircuitType
  phaseWiringType : Option String
  nominalVoltage : Option String
  ratedCurrentAmps : Option Float
  breakerState : Option BreakerState
  powerState : Option PowerState
  criticalCircuit : Option Bool
  userLabel : Option String
  locationIndicatorActive : Option Bool
  status : Status
  links : CircuitLinks
  deriving BEq, Repr

namespace Circuit

instance : Updatable Circuit where
  blank := ⟨Record.blank, none, none, none, none, none, none, none, none, none, Record.blank,
    Record.blank⟩
  members := [
    .optional "CircuitType" (·.circuitType) fun v c => { c with circuitType := v },
    .optional "PhaseWiringType" (·.phaseWiringType) fun v c => { c with phaseWiringType := v },
    .optional "NominalVoltage" (·.nominalVoltage) fun v c => { c with nominalVoltage := v },
    .optional "RatedCurrentAmps" (·.ratedCurrentAmps) fun v c => { c with ratedCurrentAmps := v },
    .optional "BreakerState" (·.breakerState) fun v c => { c with breakerState := v },
    .optional "PowerState" (·.powerState) fun v c => { c with powerState := v },
    .optional "CriticalCircuit" (·.criticalCircuit) fun v c => { c with criticalCircuit := v },
    .optional "UserLabel" (·.userLabel) fun v c => { c with userLabel := v },
    .optional "LocationIndicatorActive" (·.locationIndicatorActive)
      fun v c => { c with locationIndicatorActive := v },
    .always "Status" (·.status) fun v c => { c with status := v },
    .always "Links" (·.links) fun v c => { c with links := v }]
  entity := (·.entity)
  withEntity e c := { c with entity := e }
  typeName := "Circuit"
  properties := [
    .whole "CriticalCircuit" (·.criticalCircuit),
    .whole "UserLabel" (·.userLabel),
    .whole "LocationIndicatorActive" (·.locationIndicatorActive)]

end Circuit

end Redfish
