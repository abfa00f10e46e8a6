import Redfish.Json.Record

/-!
# The status of a resource
-/

namespace Redfish

open Json

inductive Health
  | ok
  | warning
  | critical
  | unknown
  deriving DecidableEq, Repr

instance : Enumeration Health where
  listed := [("OK", .ok), ("Warning", .warning), ("Critical", .critical)]
  unlisted := .unknown

instance : Codec Health := Enumeration.codec

inductive State
  | enabled
  | disabled
  | standbyOffline
  | standbySpare
  | inTest
  | starting
  | absent
  | unavailableOffline
  | deferring
  | quiesced
  | updating
  | qualified
  | unknown
  deriving DecidableEq, Repr

instance : Enumeration State where
  listed := [("Enabled", .enabled), ("Disabled", .disabled), ("StandbyOffline", .standbyOffline),
    ("StandbySpare", .standbySpare), ("InTest", .inTest), ("Starting", .starting),
    ("Absent", .absent), ("UnavailableOffline", .unavailableOffline), ("Deferring", .deferring),
    ("Quiesced", .quiesced), ("Updating", .updating), ("Qualified", .qualified)]
  unlisted := .unknown

instance : Codec State := Enumeration.codec

structure Status where
  state : Option State
  health : Option Health
  healthRollup : Option Health
  deriving DecidableEq, Repr

namespace Status

instance : Record Status where
  blank := ⟨none, none, none⟩
  members := [
    .optional "State" (·.state) fun v s => { s with state := v },
    .optional "Health" (·.health) fun v s => { s with health := v },
    .optional "HealthRollup" (·.healthRollup) fun v s => { s with healthRollup := v }]

instance : Codec Status := Record.codec

def isHealthy (s : Status) : Bool := s.state = some .enabled && s.health = some .ok

end Status

end Redfish
