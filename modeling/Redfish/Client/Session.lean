import Redfish.Client

/-!
# Requests over a network
-/

namespace Redfish

open Http

/-- A state in which requests are exchanged with a host; an exchange takes its time. -/
class Network (ν : Type) where
  exchange (host : String) (port : Nat) (secure : Bool) (request : Request) :
    StateM ν (Client.Outcome × Duration)

structure Session (ν : Type) where
  client : Client
  journal : Journal
  network : ν

namespace Session

def start (c : Client) (network : ν) : Session ν := ⟨c, .new c.settings.logging, network⟩

variable {ν : Type} [Network ν]

/-- Exchanges one request. One that cannot be made is not entered into the journal. -/
def send (method : Method) (uri : String) (body : Bytes) (extra : Headers) :
    Call (Session ν) Response := fun s =>
  match s.client.prepare method uri body extra with
  | .error error => (.error error, s)
  | .ok flight =>
    let journal := s.journal.noteHeaders flight.span flight.request.headers
    let ((outcome, elapsed), network) :=
      Network.exchange s.client.host s.client.port s.client.secure flight.request s.network
    let (result, journal) := s.client.conclude flight outcome elapsed journal
    (result, { s with journal, network })

instance : Transport (Session ν) where
  get uri := send .get uri [] .empty
  patch uri body extra := send .patch uri body extra

end Session

end Redfish
