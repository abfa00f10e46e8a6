import Redfish.Json.Codec

/-!
# Indicators and power
-/

namespace Redfish

open Json

inductive IndicatorLed
  | lit
  | blinking
  | off
  | unknown
  deriving DecidableEq, Repr

instance : Enumeration IndicatorLed where
  listed := [("Lit", .lit), ("Blinking", .blinking), ("Off", .off)]
  unlisted := .unknown

instance : Codec IndicatorLed := Enumeration.codec

inductive PowerState
  | on
  | off
  | poweringOn
  | poweringOff
  | paused
  | unknown
  deriving DecidableEq, Repr

instance : Enumeration PowerState where
  listed := [("On", .on), ("Off", .off), ("PoweringOn", .poweringOn),
    ("PoweringOff", .poweringOff), ("Paused", .paused)]
  unlisted := .unknown

instance : Codec PowerState := Enumeration.codec

end Redfish
