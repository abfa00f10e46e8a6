import Redfish.Collection
import Redfish.Proofs.Call

/-!
# Services whose answers do not change

A service may give to every GET of a URI the same answer, however often it is asked. What is under a
URI is then a matter of the URI alone, and of the requests only their order is left to describe.
-/

namespace Redfish

class SteadyTransport (σ : Type) extends Transport σ where
  answer : σ → String → Except Error Response
  asked : List String → σ → σ
  get_run (uri : String) (s : σ) : get uri s = (answer s uri, asked [uri] s)
  asked_nil (s : σ) : asked [] s = s
  asked_append (us vs : List String) (s : σ) : asked (us ++ vs) s = asked vs (asked us s)
  answer_asked (us : List String) (s : σ) : answer (asked us s) = answer s

namespace SteadyTransport

variable [SteadyTransport σ]

def object [Resource α] (s : σ) (uri : String) : Except Error α :=
  (answer s uri).bind fun response =>
    (Resource.ofDocument uri response.body).map (Resource.attach uri response.body)

def page (s : σ) (uri : String) : Except Error Collection :=
  (answer s uri).bind fun response => (Collection.ofBytes response.body).mapError (.decode uri)

theorem asked_cons (u : String) (us : List String) (s : σ) :
    asked (u :: us) s = asked us (asked [u] s) := asked_append [u] us s

theorem object_asked [Resource α] (us : List String) (s : σ) :
    (object (asked us s) : String → Except Error α) = object s := by
  funext uri
  rw [object, answer_asked]
  rfl

theorem page_asked (us : List String) (s : σ) : page (asked us s) = page s := by
  funext uri
  rw [page, answer_asked]
  rfl

theorem getObject_eq [Resource α] (uri : String) (s : σ) :
    (getObject uri : Call σ α) s = (object s uri, asked [uri] s) := by
  rw [getObject_run, get_run]
  rfl

theorem getPage_eq (uri : String) (s : σ) :
    (getPage uri : Call σ Collection) s = (page s uri, asked [uri] s) := by
  unfold getPage
  rw [Call.bind_run, get_run]
  unfold page
  cases answer s uri with
  | error e => rfl
  | ok response => exact Call.lift_run _ _

end SteadyTransport

/-- A service with one answer for each method and URI, which remembers what it was asked for. -/
structure FixedService where
  answer : Http.Method → String → Except Error Response
  requests : List (Http.Method × String)

namespace FixedService

def request (method : Http.Method) (uri : String) : Call FixedService Response :=
  fun s => (s.answer method uri, { s with requests := s.requests ++ [(method, uri)] })

def got (uris : List String) (s : FixedService) : FixedService :=
  { s with requests := s.requests ++ uris.map fun uri => (.get, uri) }

instance : SteadyTransport FixedService where
  get := request .get
  patch uri _ _ := request .patch uri
  answer s := s.answer .get
  asked := got
  get_run _ _ := rfl
  asked_nil s := by simp [got]
  asked_append us vs s := by simp [got]
  answer_asked _ _ := rfl

end FixedService

end Redfish
