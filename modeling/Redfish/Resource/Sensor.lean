import Redfish.Resource
import Redfish.Schema.Status

/-!
# Sensors
-/

namespace Redfish

open Json

inductive ReadingType
  | temperature
  | humidity
  | power
  | energykWh
  | energyJoules
  | energyWh
  | chargeAh
  | voltage
  | current
  | frequency
  | pressure
  | pressurekPa
  | liquidLevel
  | rotational
  | airFlow
  | liquidFlow
  | barometric
  | altitude
  | percent
  | absoluteHumidity
  | heat
  | unknown
  deriving DecidableEq, Repr

instance : Enumeration ReadingType where
  listed := [("Temperature", .temperature), ("Humidity", .humidity), ("Power", .power),
    ("EnergykWh", .energykWh), ("EnergyJoules", .energyJoules), ("EnergyWh", .energyWh),
    ("ChargeAh", .chargeAh), ("Voltage", .voltage), ("Current", .current),
    ("Frequency", .frequency), ("Pressure", .pressure), ("PressurekPa", .pressurekPa),
    ("LiquidLevel", .liquidLevel), ("Rotational", .rotational), ("AirFlow", .airFlow),
    ("LiquidFlow", .liquidFlow), ("Barometric", .barometric), ("Altitude", .altitude),
    ("Percent", .percent), ("AbsoluteHumidity", .absoluteHumidity), ("Heat", .heat)]
  unlisted := .unknown

instance : Codec ReadingType := Enumeration.codec

structure Threshold where
  reading : Option Float
  deriving BEq, Repr

instance : Record Threshold where
  blank := ⟨none⟩
  members := [.optional "Reading" (·.reading) fun v _ => ⟨v⟩]

instance : Codec Threshold := Record.codec

structure Thresholds where
  upperCritical : Option Threshold
  upperCaution : Option Threshold
  lowerCaution : Option Threshold
  lowerCritical : Option Threshold
  deriving BEq, Repr

instance : Record Thresholds where
  blank := ⟨none, none, none, none⟩
  members := [
    .optional "UpperCritical" (·.upperCritical) fun v t => { t with upperCritical := v },
    .optional "UpperCaution" (·.upperCaution) fun v t => { t with upperCaution := v },
    .optional "LowerCaution" (·.lowerCaution) fun v t => { t with lowerCaution := v },
    .optional "LowerCritical" (·.lowerCritical) fun v t => { t with lowerCritical := v }]

instance : Codec Thresholds := Record.codec

structure Sensor where
  entity : Entity
  readingType : Option ReadingType
  reading : Option Float
  readingUnits : Option String
  physicalContext : Option String
  thresholds : Thresholds
  status : Status
  deriving BEq, Repr

namespace Sensor

instance : Resource Sensor where
  blank := ⟨Record.blank, none, none, none, none, Record.blank, Record.blank⟩
  members := [
    .optional "ReadingType" (·.readingType) fun v s => { s with readingType := v },
    .optional "Reading" (·.reading) fun v s => { s with reading := v },
    .optional "ReadingUnits" (·.readingUnits) fun v s => { s with readingUnits := v },
    .optional "PhysicalContext" (·.physicalContext) fun v s => { s with physicalContext := v },
    .always "Thresholds" (·.thresholds) fun v s => { s with thresholds := v },
    .always "Status" (·.status) fun v s => { s with status := v }]
  entity := (·.entity)
  withEntity e s := { s with entity := e }

/-- Whether the reading is at a critical threshold or past it. -/
def isCritical (s : Sensor) : Bool :=
  match s.reading with
  | none => false
  | some r =>
    let upper := s.thresholds.upperCritical.bind (·.reading)
    let lower := s.thresholds.lowerCritical.bind (·.reading)
    upper.any (r ≥ ·) || lower.any (r ≤ ·)

end Sensor

end Redfish
