import Redfish.Schema.Link
import Redfish.Transport

/-!
# Collections

A collection lists links to its members. A service may spread a large one over pages, each of which
links to the next.
-/

namespace Redfish

open Json

/-- A page of a collection. The count of the members is advice and not used. -/
structure Collection where
  odataId : String
  name : String
  members : List Link
  count : Option UInt64
  nextLink : Option String
  deriving DecidableEq, Repr

namespace Collection

instance : Record Collection where
  blank := ⟨"", "", [], none, none⟩
  members := [
    .always "@odata.id" (·.odataId) fun v c => { c with odataId := v },
    .always "Name" (·.name) fun v c => { c with name := v },
    .always "Members" (·.members) fun v c => { c with members := v },
    .optional "Members@odata.count" (·.count) fun v c => { c with count := v },
    .optional "Members@odata.nextLink" (·.nextLink) fun v c => { c with nextLink := v }]

instance : Codec Collection := Record.codec

def memberUris (c : Collection) : List String := c.members.map (·.uri)

def ofBytes (bs : Bytes) : Except Fault Collection := (Record.decode : Decoder Collection).run bs

/-- The page after this one; an empty link leads nowhere. -/
def next? (c : Collection) : Option String := c.nextLink.filter (!·.isEmpty)

end Collection

section

variable [Transport σ]

def getPage (uri : String) : Call σ Collection := do
  let response ← Transport.get uri
  ((Collection.ofBytes response.body).mapError (.decode uri) : Except Error Collection)

/-- Fetches one page, and gives the URIs of its members and the link to the next page. No page is
fetched twice: a link back to one that was met is an error. -/
def readPage (start : String) (met : List String) (uri : String) :
    Call σ (List String × Option String) := do
  let page ← getPage uri
  if let some link := page.next? then
    if met.contains link then
      throw (.validation ("Collection " ++ start ++ " links back to page " ++ link))
  return (page.memberUris, page.next?)

/-- Fetches a page and those after it, and gives the URIs of their members. Pages without an end give
nothing. -/
def walkPages (start : String) (visited : List String) (uri : String) (s : σ) :
    Option (Except Error (List String) × σ) :=
  match (readPage start (uri :: visited) uri : Call σ _) s with
  | (.error e, s) => some (.error e, s)
  | (.ok (uris, none), s) => some (.ok uris, s)
  | (.ok (uris, some link), s) => do
    let walkOn := walkPages start (uri :: visited) (s := s)
    let (more, s) ← walkOn link
    return (more.map (uris ++ ·), s)
partial_fixpoint

def getCollection (uri : String) : ExceptT Error (Requests σ) (List String) := fun s =>
  walkPages uri [] uri s

end

end Redfish
