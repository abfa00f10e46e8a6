import Redfish.Proofs.Client
import Redfish.Proofs.Recording

/-!
# Requests one after the other

A program makes requests of a client, one after the other. What is exchanged for them can be watched
without a change to the answers: one exchange for each request that can be made, and none for the others.
-/

namespace Redfish

open Http

namespace Made

def method : Made → Method
  | get _ => .get
  | patch .. => .patch

def uri : Made → String
  | get uri | patch uri .. => uri

def body : Made → Bytes
  | get _ => []
  | patch _ body _ => body

def extra : Made → Headers
  | get _ => .empty
  | patch _ _ extra => extra

def send [Transport σ] : Made → Call σ Response
  | get uri => Transport.get uri
  | patch uri body extra => Transport.patch uri body extra

/-- Makes requests in order, and gives what came of each. -/
def sendAll [Transport σ] : List Made → StateM σ (List (Except Error Response))
  | [] => return []
  | made :: rest => do
    let result ← (made.send : Call σ Response).run
    let results ← sendAll rest
    return result :: results

theorem sendAll_cons [Transport σ] (made : Made) (rest : List Made) (s : σ) :
    sendAll (made :: rest) s =
      (((made.send : Call σ Response) s).1 :: (sendAll rest (made.send s).2).1,
        (sendAll rest (made.send s).2).2) := rfl

end Made

def Client.prepareMade (c : Client) (made : Made) : Except Error Client.Flight :=
  c.prepare made.method made.uri made.body made.extra

/-- One request, to which host it went, and what came of it after which time. -/
structure Exchange where
  host : String
  port : Nat
  secure : Bool
  request : Request
  outcome : Client.Outcome
  elapsed : Duration
  deriving DecidableEq, Repr

/-- A network and what was exchanged on it, in order. -/
structure Watched (ν : Type) where
  network : ν
  exchanges : List Exchange

namespace Watched

instance [Network ν] : Network (Watched ν) where
  exchange host port secure request := fun w =>
    let answer := Network.exchange host port secure request w.network
    (answer.1, ⟨answer.2, w.exchanges ++ [⟨host, port, secure, request, answer.1.1, answer.1.2⟩]⟩)

end Watched

namespace Session

variable [Network ν]

theorem send_made (made : Made) (s : Session ν) :
    made.send s = Session.send made.method made.uri made.body made.extra s := by
  cases made <;> rfl

theorem made_of_error {made : Made} {s : Session ν} {error : Error}
    (h : s.client.prepareMade made = .error error) : made.send s = (.error error, s) := by
  rw [send_made]
  exact send_of_error h

theorem made_of_flight {made : Made} {s : Session (Watched ν)} {f : Client.Flight}
    (h : s.client.prepareMade made = .ok f) :
    ∃ (outcome : Client.Outcome) (elapsed : Duration) (network : ν),
      made.send s = (s.client.verdict f outcome elapsed,
        { s with
          journal := (s.client.conclude f outcome elapsed
            (s.journal.noteHeaders f.span f.request.headers)).2
          network := ⟨network, s.network.exchanges ++
            [⟨s.client.host, s.client.port, s.client.secure, f.request, outcome, elapsed⟩]⟩ }) := by
  rw [send_made, send_of_flight h]
  exact ⟨_, _, _, rfl⟩

theorem client_made (made : Made) (s : Session ν) : (made.send s).2.client = s.client := by
  cases hPrepare : s.client.prepareMade made with
  | error error => rw [made_of_error hPrepare]
  | ok f => rw [send_made, send_of_flight hPrepare]

theorem exchanges_made (made : Made) (s : Session (Watched ν)) :
    s.network.exchanges <+: (made.send s).2.network.exchanges := by
  cases hPrepare : s.client.prepareMade made with
  | error error => exact ⟨[], by rw [made_of_error hPrepare, List.append_nil]⟩
  | ok f =>
    obtain ⟨outcome, elapsed, network, hSend⟩ := made_of_flight hPrepare
    rw [hSend]
    exact List.prefix_append _ _

theorem exchanges_sendAll (calls : List Made) (s : Session (Watched ν)) :
    s.network.exchanges <+: (Made.sendAll calls s).2.network.exchanges := by
  induction calls generalizing s with
  | nil => exact List.prefix_rfl
  | cons made rest ih =>
    rw [Made.sendAll_cons]
    exact (exchanges_made made s).trans (ih _)

end Session

end Redfish
