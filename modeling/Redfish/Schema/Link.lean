import Redfish.Json.Record

/-!
# References to other resources
-/

namespace Redfish

open Json

/-- A reference to another resource. A link without a URI refers to nothing. -/
structure Link where
  uri : String
  deriving DecidableEq, Repr

namespace Link

def isEmpty (l : Link) : Bool := l.uri.isEmpty

instance : Record Link where
  blank := ⟨""⟩
  members := [.always "@odata.id" (·.uri) fun v _ => ⟨v⟩]

instance : Codec Link := Record.codec

/-- Where an optional link leads: an absent link and an empty one both lead nowhere. -/
def target (l : Option Link) : String := (l.map (·.uri)).getD ""

end Link

end Redfish
