import Redfish.Collection

/-!
# Fetching many resources

Members are fetched one by one. One that fails is noted down and the others are fetched all the same,
so the result tells both what was retrieved and what was not.
-/

namespace Redfish

/-- Resources that could not be retrieved, in the order in which they were tried. -/
structure FailureReport where
  entries : List (String × Error)
  deriving DecidableEq, Repr

namespace FailureReport

def empty : FailureReport := ⟨[]⟩

def record (uri : String) (e : Error) (r : FailureReport) : FailureReport :=
  ⟨r.entries ++ [(uri, e)]⟩

def isEmpty (r : FailureReport) : Bool := r.entries.isEmpty

def length (r : FailureReport) : Nat := r.entries.length

def get? (r : FailureReport) (uri : String) : Option Error := r.entries.lookup uri

def uris (r : FailureReport) : List String := r.entries.map (·.1)

def text (r : FailureReport) : String :=
  "; ".intercalate (r.entries.map fun (uri, e) => uri ++ ": " ++ e.message)

end FailureReport

inductive ListError (α : Type)
  /-- The collection could not be read, so that nothing is known of its members. -/
  | collection (error : Error)
  /-- Some members failed; the others are the items. -/
  | partialResult (items : List α) (failures : FailureReport)

namespace ListError

def items : ListError α → List α
  | collection _ => []
  | partialResult items _ => items

def failures? : ListError α → Option FailureReport
  | collection _ => none
  | partialResult _ failures => some failures

/-- What was retrieved and what failed. A collection that could not be read is a failure without a
URI. -/
def parts : ListError α → List α × FailureReport
  | collection e => ([], FailureReport.empty.record "" e)
  | partialResult items failures => (items, failures)

def cause? : ListError α → Option Error
  | collection e => some e
  | partialResult _ _ => none

def message : ListError α → String
  | collection e => "Failed to fetch collection: " ++ e.message
  | partialResult items failures =>
    toString failures.length ++ " of " ++ toString (failures.length + items.length) ++
      " members failed: " ++ failures.text

end ListError

/-- What the listing of resources of type `α` gives in a state. -/
abbrev Listing (σ α β : Type) := ExceptT (ListError α) (Requests σ) β

section

variable [Transport σ] [Resource α]

def fetchAll : List String → StateM σ (List α × FailureReport)
  | [] => return ([], .empty)
  | uri :: uris => do
    let result ← (getObject uri : Call σ α).run
    let (items, failures) ← fetchAll uris
    return match result with
      | .ok a => (a :: items, failures)
      | .error e => (items, ⟨(uri, e) :: failures.entries⟩)

def fetchMembers (uris : List String) : Listing σ α (List α) := do
  let (items, failures) ← (fetchAll uris : StateM σ (List α × FailureReport))
  if failures.isEmpty then return items
  throw (.partialResult items failures)

/-- The members of the collection that a link leads to. An empty link leads to none, and no request is
made for it. -/
def listReferenced (link : String) : Listing σ α (List α) := do
  if link.isEmpty then return []
  let uris ← (getCollection link : ExceptT Error (Requests σ) _).adapt .collection
  fetchMembers uris

def listLinked (links : List Link) : Listing σ α (List α) :=
  fetchMembers ((links.filter (!·.isEmpty)).map (·.uri))

namespace Entity

/-- Refuses to list through an entity that no service sent. -/
def attachedListing (e : Entity) (listing : Listing σ α (List α)) : Listing σ α (List α) :=
  match e.checkAttached with
  | .ok () => listing
  | .error error => throw (.collection error)

def listReferenced (e : Entity) (link : String) : Listing σ α (List α) :=
  e.attachedListing (Redfish.listReferenced link)

def listLinked (e : Entity) (links : List Link) : Listing σ α (List α) :=
  e.attachedListing (Redfish.listLinked links)

end Entity

end

end Redfish
