import Redfish.Client.Pem
import Redfish.Client.Settings
import Redfish.Http.Request
import Redfish.Journal
import Redfish.Machine
import Redfish.Transport
import Redfish.Url

/-!
# The client of one service
-/

namespace Redfish

open Http

structure Client where
  settings : ClientSettings
  host : String
  port : Nat
  secure : Bool
  authorization : Option HeaderValue
  deriving DecidableEq, Repr

namespace Client

def checkCertificates (m : Machine) (s : ClientSettings) : Except Error Unit :=
  match s.caPath with
  | none => .ok ()
  | some path =>
    match m.content path with
    | .error reason => .error (.config ("Failed to read CA cert: " ++ reason))
    | .ok pem =>
      match Pem.certificates? pem with
      | none => .error (.config "Failed to parse PEM certificates: <pem>")
      | some [] => .error (.config "No certificates found in PEM data")
      | some certificates =>
        match certificates.findSome? m.refusal with
        | some reason => .error (.config ("Failed to add CA cert: " ++ reason))
        | none => .ok ()

def basicAuthorization (s : ClientSettings) : Except Error (Option HeaderValue) :=
  match s.username with
  | none => .ok none
  | some username =>
    let token := Base64.encode (Bytes.ofText (username ++ ":" ++ s.password.getD ""))
    match HeaderValue.ofText? ("Basic " ++ token) with
    | some v => .ok (some v.markSensitive)
    | none => .error (.config "Invalid credentials: failed to parse header value")

def namesScheme : List Char → Bool
  | ':' :: '/' :: '/' :: _ => true
  | _ :: cs => namesScheme cs
  | [] => false

/-- The URL of an endpoint, which is secure unless it says otherwise. -/
def endpointUrl (endpoint : String) : String :=
  if namesScheme endpoint.toList then endpoint else "https://" ++ endpoint

def new (m : Machine) (s : ClientSettings) : Except Error Client := do
  let url ← (Url.parse (endpointUrl s.endpoint)).mapError fun fault =>
    .config ("Invalid endpoint URL: " ++ fault.words)
  let some host := url.host | throw (.config "No host in endpoint")
  let some port := url.portOrDefault | throw (.config "No port in endpoint")
  let secure ← match url.scheme with
    | "http" => pure false
    | "https" => do
      checkCertificates m s
      pure true
    | other => throw (.config ("Unsupported endpoint scheme: " ++ other))
  let authorization ← basicAuthorization s
  return ⟨s, host.text, port, secure, authorization⟩

def shown (c : Client) : String :=
  "RedfishClient \x7b endpoint: " ++ Quoted.quote c.settings.endpoint ++ ", tls: " ++
    toString c.secure ++ ", .. \x7d"

def uriHost (c : Client) : String :=
  if c.host.toList.contains ':' then "[" ++ c.host ++ "]" else c.host

/-- The host header field: the port is left out if it is the usual one. -/
def hostHeader (c : Client) : String :=
  if c.port = (if c.secure then 443 else 80) then c.uriHost
  else c.uriHost ++ ":" ++ toString c.port

/-- The target of requests for a URI. Links are relative to the service; of an absolute one the path and
the query are taken. -/
def requestTarget (uri : String) : Except Error String :=
  if "http://".toList.isPrefixOf uri.toList || "https://".toList.isPrefixOf uri.toList then
    match Url.parse uri with
    | .ok url => .ok url.target
    | .error fault => .error (.validation ("Invalid URI " ++ uri ++ ": " ++ fault.words))
  else if uri.toList.head? = some '/' then .ok uri
  else .ok ("/" ++ uri)

def baseHeaders (c : Client) (method : Method) : Headers :=
  let field (name text : String) (h : Headers) : Headers := h.append name ⟨Bytes.ofText text, false⟩
  let h := Headers.empty |> field "host" c.hostHeader |> field "accept" "application/json" |>
    field "odata-version" "4.0"
  let h := if method = .patch then h |> field "content-type" "application/json" else h
  match c.authorization with
  | none => h
  | some v => h.append "authorization" v

def buildRequest (c : Client) (method : Method) (target : String) (body : Bytes)
    (extra : Headers) : Except Error Request :=
  match sentTarget target with
  | .error fault => .error (.validation ("Invalid request: " ++ fault.words))
  | .ok sent => .ok ⟨method, sent, extra.insertAll (c.baseHeaders method), body⟩

structure Flight where
  method : Method
  target : String
  request : Request
  deriving DecidableEq, Repr

namespace Flight

def span (f : Flight) : Span := ⟨f.method.name, f.target⟩

end Flight

def prepare (c : Client) (method : Method) (uri : String) (body : Bytes) (extra : Headers) :
    Except Error Flight := do
  let target ← requestTarget uri
  let request ← c.buildRequest method target body extra
  return ⟨method, target, request⟩

inductive Outcome
  | unreachable (reason : String)
  | failed (error : Error)
  | answered (response : Response)
  deriving DecidableEq, Repr

def result (c : Client) (outcome : Outcome) (elapsed : Duration) : Except Error Response :=
  if c.settings.timeout.nanos < elapsed.nanos then .error (.timeout c.settings.timeout)
  else
    match outcome with
    | .unreachable reason =>
      .error (.connection (c.uriHost ++ ":" ++ toString c.port ++ ": " ++ reason))
    | .failed error => .error error
    | .answered response => .ok response

/-- Finishes a request and enters it into the journal. No request takes longer than the timeout. -/
def conclude (c : Client) (f : Flight) (outcome : Outcome) (elapsed : Duration) (j : Journal) :
    Except Error Response × Journal :=
  let waited : Duration := ⟨min elapsed.nanos c.settings.timeout.nanos⟩
  match c.result outcome elapsed with
  | .error error => (.error error, j.finishError f.span error.message waited)
  | .ok response =>
    if response.status.isSuccess then
      (.ok response, j.finishSuccess f.span response.status.code waited)
    else
      (.error (.status f.method f.target response.status (ServiceError.ofBody? response.body)),
        j.finishError f.span response.status.text waited)

end Client

end Redfish
