import Redfish.Error
import Redfish.Text.Quoted

/-!
# The identity of a resource

Besides the identity that every document carries, a fetched resource keeps the client it was fetched
through and the bytes that the service sent, two fields that no document sets. The bytes are the baseline
of partial updates.
-/

namespace Redfish

open Json

structure Entity where
  odataId : String
  odataType : Option String
  etag : Option String
  id : String
  name : String
  description : Option String
  /-- Whether the entity has the client that it was fetched through. -/
  isAttached : Bool
  /-- The bytes of the fetch. -/
  raw : Bytes
  matchesEtag : Bool
  deriving DecidableEq, Repr

namespace Entity

instance : Record Entity where
  blank := ⟨"", none, none, "", "", none, false, [], true⟩
  members := [
    .always "@odata.id" (·.odataId) fun v e => { e with odataId := v },
    .optional "@odata.type" (·.odataType) fun v e => { e with odataType := v },
    .optional "@odata.etag" (·.etag) fun v e => { e with etag := v },
    .always "Id" (·.id) fun v e => { e with id := v },
    .always "Name" (·.name) fun v e => { e with name := v },
    .optional "Description" (·.description) fun v e => { e with description := v }]

/-- Makes the entity one that was fetched from a URI. Without a URI of its own it takes that one. -/
def attach (uri : String) (body : Bytes) (e : Entity) : Entity :=
  { e with
    odataId := if e.odataId.isEmpty then uri else e.odataId
    isAttached := true
    raw := body }

def checkAttached (e : Entity) : Except Error Unit :=
  if e.isAttached then .ok () else .error (.detached e.odataId)

def ifMatch (e : Entity) : Option String := if e.matchesEtag then e.etag else none

def shown (e : Entity) : String :=
  "Entity \x7b odata_id: " ++ Quoted.quote e.odataId ++
    ", odata_type: " ++ Quoted.quote? e.odataType ++
    ", etag: " ++ Quoted.quote? e.etag ++
    ", id: " ++ Quoted.quote e.id ++
    ", name: " ++ Quoted.quote e.name ++
    ", attached: " ++ toString e.isAttached ++
    ", raw_len: " ++ toString e.raw.length ++ " \x7d"

end Entity

end Redfish
