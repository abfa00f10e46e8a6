import Redfish.Client.Settings
import Redfish.Json.Codec

/-!
# Profiles

A profile tells how to reach one service. A profile file holds several, of which one is active.
-/

namespace Redfish

open Json

structure Profile where
  endpoint : String
  username : Option String
  password : Option String
  ca : Option String
  insecure : Bool
  timeoutSecs : Option UInt64
  deriving DecidableEq, Repr

namespace Profile

def blank : Profile := ⟨"", none, none, none, false, none⟩

def clientSettings (p : Profile) : ClientSettings :=
  { ClientSettings.standard with
    endpoint := p.endpoint
    username := p.username
    password := p.password
    caPath := p.ca
    insecure := p.insecure
    timeout := (p.timeoutSecs.map fun n => Duration.ofSecs n.toNat).getD
      ClientSettings.standard.timeout }

end Profile

structure ProfileFile where
  active : Option String
  profiles : Table Profile
  deriving DecidableEq, Repr

namespace ProfileFile

def empty : ProfileFile := ⟨none, []⟩

def profile? (f : ProfileFile) (name : String) : Option Profile := f.profiles.get? name

def activeProfile? (f : ProfileFile) : Option Profile := f.active.bind f.profile?

end ProfileFile

end Redfish
