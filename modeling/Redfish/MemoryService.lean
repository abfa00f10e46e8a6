import Redfish.Transport

/-!
# A service in memory

It serves documents by their URI, can be told to refuse some of the URIs, and remembers every request
that was made to it.
-/

namespace Redfish

open Json Http

structure ReceivedRequest where
  method : Method
  uri : String
  body : Bytes
  ifMatch : Option String
  deriving DecidableEq, Repr

namespace ReceivedRequest

def json (r : ReceivedRequest) : Value :=
  match (Codec.decode : Decoder Value).run r.body with
  | .ok v => v
  | .error _ => .null

end ReceivedRequest

structure MemoryService where
  documents : List (String × Bytes)
  refusals : List (String × StatusCode)
  received : List ReceivedRequest
  deriving DecidableEq, Repr

namespace MemoryService

def empty : MemoryService := ⟨[], [], []⟩

def insert (uri : String) (document : Bytes) (s : MemoryService) : MemoryService :=
  { s with documents := (uri, document) :: s.documents.filter (·.1 != uri) }

/-- The document of a collection. The count is a machine word. -/
def collectionDocument (uri : String) (members : List String) : Value :=
  .object <| Table.ofList [
    ("@odata.id", .text uri),
    ("Name", .text "Collection"),
    ("Members@odata.count", Codec.encode (UInt64.ofNat members.length)),
    ("Members", .array (members.map fun m => .object [("@odata.id", .text m)]))]

def insertCollection (uri : String) (members : List String) (s : MemoryService) : MemoryService :=
  s.insert uri (collectionDocument uri members).render

def remove (uri : String) (s : MemoryService) : MemoryService :=
  { s with documents := s.documents.filter (·.1 != uri) }

def failWith (uri : String) (code : StatusCode) (s : MemoryService) : MemoryService :=
  { s with refusals := (uri, code) :: s.refusals.filter (·.1 != uri) }

def patches (s : MemoryService) : List ReceivedRequest := s.received.filter (·.method = .patch)

/-- What the service answers. A PATCH changes no document. -/
def answer (s : MemoryService) (r : ReceivedRequest) : Except Error Response :=
  match s.refusals.lookup r.uri with
  | some code => .error (.status r.method r.uri code none)
  | none =>
    match s.documents.lookup r.uri with
    | none => .error (.status r.method r.uri .notFound none)
    | some document =>
      if r.method = .patch then .ok (.plain .noContent []) else .ok (.plain .ok document)

def receive (r : ReceivedRequest) : Call MemoryService Response :=
  fun s => (s.answer r, { s with received := s.received ++ [r] })

/-- Conditions that are not visible text are not remembered. -/
instance : Transport MemoryService where
  get uri := receive ⟨.get, uri, [], none⟩
  patch uri body extra :=
    receive ⟨.patch, uri, body, (extra.get? "if-match").bind HeaderValue.text?⟩

end MemoryService

end Redfish
