import Redfish.Entity

/-!
# Resources

A resource is a record with an entity. Its document must be an object. The members that the resource
does not know are kept aside while the object is read, as values; the entity is decoded from them once
the object has ended. So what is wrong with the identity is reported last.
-/

namespace Redfish

open Json

class Resource (α : Type) extends Record α where
  entity : α → Entity
  withEntity : Entity → α → α

namespace Resource

variable [Resource α]

def decode : Decoder α
  | levels, .object ms close => do
    let levels ← deeper levels
    let a ← Record.absorb (Record.members (α := α)) (fun o => (o.value levels).map fun _ => ())
      levels [] Record.blank ms
    close.check
    let e ← Record.absorb (Record.members (α := Entity)) (fun _ => .ok ()) levels [] Record.blank ms
    return withEntity e a
  | _, o => .error o.mismatch

def ofBytes (bs : Bytes) : Except Fault α := decode.run bs

def ofDocument (uri : String) (bs : Bytes) : Except Error α := (ofBytes bs).mapError (.decode uri)

def attach (uri : String) (body : Bytes) (a : α) : α :=
  withEntity ((entity a).attach uri body) a

end Resource

/-- The state in which the service sent the resource, whatever was changed since. -/
def Entity.snapshot [Resource α] (e : Entity) : Except Error α :=
  if e.raw.isEmpty then .error (.detached e.odataId) else Resource.ofDocument e.odataId e.raw

end Redfish
