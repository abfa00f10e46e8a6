import Redfish.Http.Header
import Redfish.Resource

/-!
# Requests to a service

A transport is a state that requests are made in: it answers them and remembers what it needs to. A
response that arrives is always a success; every other answer of a service is an error.
-/

namespace Redfish

structure Response where
  status : Http.StatusCode
  headers : Http.Headers
  body : Bytes
  deriving DecidableEq, Repr

namespace Response

def plain (status : Http.StatusCode) (body : Bytes) : Response := ⟨status, .empty, body⟩

/-- The entity tag in the header, if it is visible text. -/
def etag? (r : Response) : Option String := (r.headers.get? "etag").bind (·.text?)

end Response

/-- What requests made in a state give: a value or an error, and the state after them. -/
abbrev Call (σ α : Type) := ExceptT Error (StateM σ) α

/-- Requests of which there may be no end; they give nothing then. -/
abbrev Requests (σ : Type) := StateT σ Option

instance : MonadLift (StateM σ) (Requests σ) := ⟨fun x s => some (x s)⟩

class Transport (σ : Type) where
  get (uri : String) : Call σ Response
  patch (uri : String) (body : Bytes) (extra : Http.Headers) : Call σ Response

variable {σ : Type} [Transport σ]

/-- Fetches the resource under a URI. It keeps the bytes of the document for later updates. -/
def getObject [Resource α] (uri : String) : Call σ α := do
  let response ← Transport.get uri
  let a ← (Resource.ofDocument uri response.body : Except Error α)
  return Resource.attach uri response.body a

end Redfish
