import Redfish.Transport

/-!
# Partial updates

A type of resources lists the properties that the service lets a PATCH change. An update compares
these, and only these, with the bytes of the fetch and sends those that differ.
-/

namespace Redfish

open Json

/-- The body of a request. Whatever the value holds, it can be written. -/
def Json.Value.toBytes (v : Value) : Except Fault Bytes := .ok v.render

/-- What has to be sent to make the members of `baseline` those of `current`: the members of `current`
that differ. What is not an object on both sides is sent whole. -/
def changedMembers (baseline current : Value) : Value :=
  match baseline, current with
  | .object b, .object c => .object (c.filter fun m => !(Table.get? b m.1 == some m.2))
  | _, current => current

structure Property (α : Type) where
  name : String
  changed : (baseline current : α) → Bool
  /-- What is sent for a property that differs, or why that cannot be written. -/
  value : (baseline current : α) → Except Fault Value

namespace Property

def whole [BEq β] [Codec β] (name : String) (get : α → β) : Property α where
  name
  changed baseline current := get baseline != get current
  value _ current := .ok (Codec.encode (get current))

/-- A property of which only the members that differ are sent. -/
def byMembers [BEq β] [Codec β] (name : String) (get : α → β) : Property α where
  name
  changed baseline current := get baseline != get current
  value baseline current := .ok <|
    changedMembers (Codec.encode (get baseline)) (Codec.encode (get current))

end Property

class Updatable (α : Type) extends Resource α where
  typeName : String
  properties : List (Property α)

section

variable [Updatable α]

def diff (baseline current : α) : Except Error Object := do
  let differing := (Updatable.properties (α := α)).filter (·.changed baseline current)
  let sent ← differing.mapM fun p => do
    return (p.name, ← (p.value baseline current).mapError .encode)
  return Table.ofList sent

def pendingChanges (current : α) : Except Error Object := do
  if (Updatable.properties (α := α)).isEmpty then
    throw (.notUpdatable (Updatable.typeName α))
  let baseline : α ← (Resource.entity current).snapshot
  diff baseline current

def Entity.condition (e : Entity) : Except Error Http.Headers :=
  match e.ifMatch with
  | none => .ok .empty
  | some etag =>
    match Http.HeaderValue.ofText? etag with
    | some v => .ok (Http.Headers.empty.insert "if-match" v)
    | none => .error (.validation
        ("Invalid ETag " ++ Quoted.quote etag ++ ": failed to parse header value"))

/-- Sends the properties that differ from the bytes of the fetch. Nothing is sent if none does. The
bytes are left as they are: for a new baseline the resource has to be fetched again. -/
def update [Transport σ] (current : α) : Call σ Unit := do
  let delta ← pendingChanges current
  if delta.isEmpty then return
  let e := Resource.entity current
  e.checkAttached
  let body ← ((Value.object delta).toBytes.mapError .encode : Except Error Bytes)
  let extra ← e.condition
  let _ ← Transport.patch e.odataId body extra

end

end Redfish
