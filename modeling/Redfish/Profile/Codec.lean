import Redfish.Json.Record
import Redfish.Profile
import Redfish.Yaml.Reading

/-!
# Profiles as JSON and as YAML

A profile has to have an endpoint; everything else may be missing.
-/

namespace Redfish

open Json

namespace Profile

structure Draft where
  profile : Profile
  hasEndpoint : Bool

namespace Draft

def blank : Draft := ⟨Profile.blank, false⟩

def update (f : Profile → Profile) (d : Draft) : Draft := { d with profile := f d.profile }

def setEndpoint (v : String) (d : Draft) : Draft := ⟨{ d.profile with endpoint := v }, true⟩

def setUsername (v : Option String) : Draft → Draft := update ({ · with username := v })

def setPassword (v : Option String) : Draft → Draft := update ({ · with password := v })

def setCa (v : Option String) : Draft → Draft := update ({ · with ca := v })

def setInsecure (v : Bool) : Draft → Draft := update ({ · with insecure := v })

def setTimeoutSecs (v : Option UInt64) : Draft → Draft := update ({ · with timeoutSecs := v })

def complete? (d : Draft) : Option Profile := if d.hasEndpoint then some d.profile else none

instance : Record Draft where
  blank := blank
  members := [
    .always "endpoint" (·.profile.endpoint) setEndpoint,
    .optional "username" (·.profile.username) setUsername,
    .optional "password" (·.profile.password) setPassword,
    .optional "ca" (·.profile.ca) setCa,
    .always "insecure" (·.profile.insecure) setInsecure,
    .optional "timeout_secs" (·.profile.timeoutSecs) setTimeoutSecs]

open Yaml.Document in
def fields : List (FieldReader Draft) := [
  ⟨"endpoint", fun d n a => (text? d n).map (setEndpoint · a)⟩,
  ⟨"username", fun d n a => (optional? (text? d) d n).map (setUsername · a)⟩,
  ⟨"password", fun d n a => (optional? (text? d) d n).map (setPassword · a)⟩,
  ⟨"ca", fun d n a => (optional? (text? d) d n).map (setCa · a)⟩,
  ⟨"insecure", fun d n a => (bool? d n).map (setInsecure · a)⟩,
  ⟨"timeout_secs", fun d n a => (optional? (uint64? d) d n).map (setTimeoutSecs · a)⟩]

end Draft

instance : Codec Profile where
  decode l o := do
    let d ← (Record.decode l o : Except Fault Draft)
    match d.complete? with
    | some p => .ok p
    | none => .error (.data .missingField)
  encode p := Record.encode (⟨p, true⟩ : Draft)

def ofNode? (d : Yaml.Document) (node : Yaml.Node) : Option Profile := do
  (← d.readFields Draft.fields [] Draft.blank (← d.pairs? node)).complete?

end Profile

namespace ProfileFile

/-- The values of the members of an object; of members of one name the last counts. -/
def decodeTable [Codec α] (levels : Nat) :
    Table α → List (Text × Outline) → Except Fault (Table α)
  | t, [] => .ok t
  | t, (name, o) :: rest => do
    let n ← name.content
    let a ← Codec.decode levels o
    decodeTable levels (t.put n a) rest

instance [Codec α] : Codec (Table α) where
  decode
    | levels, .object ms close => do
      let levels ← deeper levels
      let t ← decodeTable levels [] ms
      close.check
      return t
    | _, o => .error o.mismatch
  encode t := .object (t.map fun (n, a) => (n, Codec.encode a))

instance : Record ProfileFile where
  blank := empty
  members := [
    .optional "profile" (·.active) fun v f => { f with active := v },
    .always "profiles" (·.profiles) fun v f => { f with profiles := v }]

instance : Codec ProfileFile := Record.codec

/-- The profiles of the pairs of a mapping; of profiles of one name the last counts. -/
def profilesOf? (d : Yaml.Document) :
    Table Profile → List (Yaml.Node × Yaml.Node) → Option (Table Profile)
  | t, [] => some t
  | t, (key, value) :: rest => do
    let name ← d.text? key
    let p ← Profile.ofNode? d value
    profilesOf? d (t.put name p) rest

open Yaml.Document in
def fields : List (FieldReader ProfileFile) := [
  ⟨"profile", fun d n f => (optional? (text? d) d n).map fun v => { f with active := v }⟩,
  ⟨"profiles", fun d n f => do
    let t ← profilesOf? d [] (← pairs? d n)
    return { f with profiles := t }⟩]

/-- The profile file that a text spells. An empty text is an empty file. -/
def ofYaml? (text : String) : Option ProfileFile := do
  let d ← Yaml.Document.ofText? text
  match d.root with
  | none => some empty
  | some node => d.readFields fields [] empty (← d.pairs? node)

end ProfileFile

end Redfish
