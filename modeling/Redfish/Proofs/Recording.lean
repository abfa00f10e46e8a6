import Redfish.Proofs.Call

/-!
# Services that remember what they were asked for

Any service can be put behind a record of the requests that are made to it. The record changes none of
its answers.
-/

namespace Redfish

inductive Made
  | get (uri : String)
  | patch (uri : String) (body : Bytes) (extra : Http.Headers)
  deriving DecidableEq, Repr

/-- A service and the requests that were made to it, in order. -/
structure Recorded (σ : Type) where
  service : σ
  made : List Made

namespace Recorded

def note (request : Made) (call : Call σ α) : Call (Recorded σ) α := fun s =>
  ((call s.service).1, ⟨(call s.service).2, s.made ++ [request]⟩)

instance [Transport σ] : Transport (Recorded σ) where
  get uri := note (.get uri) (Transport.get uri)
  patch uri body extra := note (.patch uri body extra) (Transport.patch uri body extra)

end Recorded

end Redfish
