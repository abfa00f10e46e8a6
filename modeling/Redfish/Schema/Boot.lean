import Redfish.Json.Record

/-!
# Boot settings
-/

namespace Redfish

open Json

inductive BootSourceOverrideEnabled
  | disabled
  | once
  | continuous
  | unknown
  deriving DecidableEq, Repr

instance : Enumeration BootSourceOverrideEnabled where
  listed := [("Disabled", .disabled), ("Once", .once), ("Continuous", .continuous)]
  unlisted := .unknown

instance : Codec BootSourceOverrideEnabled := Enumeration.codec

inductive BootSource
  | none
  | pxe
  | floppy
  | cd
  | usb
  | hdd
  | biosSetup
  | utilities
  | diags
  | uefiShell
  | uefiTarget
  | sdCard
  | uefiHttp
  | remoteDrive
  | uefiBootNext
  | recovery
  | unknown
  deriving DecidableEq, Repr

instance : Enumeration BootSource where
  listed := [("None", .none), ("Pxe", .pxe), ("Floppy", .floppy), ("Cd", .cd), ("Usb", .usb),
    ("Hdd", .hdd), ("BiosSetup", .biosSetup), ("Utilities", .utilities), ("Diags", .diags),
    ("UefiShell", .uefiShell), ("UefiTarget", .uefiTarget), ("SDCard", .sdCard),
    ("UefiHttp", .uefiHttp), ("RemoteDrive", .remoteDrive), ("UefiBootNext", .uefiBootNext),
    ("Recovery", .recovery)]
  unlisted := .unknown

instance : Codec BootSource := Enumeration.codec

inductive BootSourceOverrideMode
  | legacy
  | uefi
  | unknown
  deriving DecidableEq, Repr

instance : Enumeration BootSourceOverrideMode where
  listed := [("Legacy", .legacy), ("UEFI", .uefi)]
  unlisted := .unknown

instance : Codec BootSourceOverrideMode := Enumeration.codec

structure Boot where
  overrideEnabled : Option BootSourceOverrideEnabled
  overrideTarget : Option BootSource
  overrideMode : Option BootSourceOverrideMode
  order : List String
  deriving DecidableEq, Repr

namespace Boot

instance : Record Boot where
  blank := ⟨none, none, none, []⟩
  members := [
    .optional "BootSourceOverrideEnabled" (·.overrideEnabled)
      fun v b => { b with overrideEnabled := v },
    .optional "BootSourceOverrideTarget" (·.overrideTarget)
      fun v b => { b with overrideTarget := v },
    .optional "BootSourceOverrideMode" (·.overrideMode) fun v b => { b with overrideMode := v },
    .listed "BootOrder" (·.order) fun v b => { b with order := v }]

instance : Codec Boot := Record.codec

/-- Boots from `target` the next time only. -/
def once (target : BootSource) (b : Boot) : Boot :=
  { b with overrideEnabled := some .once, overrideTarget := some target }

end Boot

end Redfish
