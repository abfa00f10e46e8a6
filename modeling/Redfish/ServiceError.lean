import Redfish.Json.Record

/-!
# The error document of a service

A service explains a refused request with a document that holds an `error` object.
-/

namespace Redfish

open Json

structure ExtendedInfo where
  messageId : String
  message : String
  severity : Option String
  resolution : Option String
  deriving DecidableEq, Repr

instance : Record ExtendedInfo where
  blank := ⟨"", "", none, none⟩
  members := [
    .always "MessageId" (·.messageId) fun v i => { i with messageId := v },
    .always "Message" (·.message) fun v i => { i with message := v },
    .optional "Severity" (·.severity) fun v i => { i with severity := v },
    .optional "Resolution" (·.resolution) fun v i => { i with resolution := v }]

instance : Codec ExtendedInfo := Record.codec

structure ServiceError where
  code : String
  message : String
  extendedInfo : List ExtendedInfo
  deriving DecidableEq, Repr

namespace ServiceError

instance : Record ServiceError where
  blank := ⟨"", "", []⟩
  members := [
    .always "code" (·.code) fun v e => { e with code := v },
    .always "message" (·.message) fun v e => { e with message := v },
    .listed "@Message.ExtendedInfo" (·.extendedInfo) fun v e => { e with extendedInfo := v }]

instance : Codec ServiceError := Record.codec

structure Envelope where
  error : Option ServiceError

instance : Record Envelope where
  blank := ⟨none⟩
  members := [.optional "error" (·.error) fun v _ => ⟨v⟩]

/-- The error that a body holds; anything but an error document holds none. -/
def ofBody? (body : Bytes) : Option ServiceError :=
  match Decoder.run (Record.decode : Decoder Envelope) body with
  | .ok envelope => envelope.error
  | .error _ => none

/-- The explanation for a reader. The first extended message is the more specific one. -/
def text (e : ServiceError) : String :=
  let plain := if e.message.isEmpty then e.code else e.message
  match e.extendedInfo with
  | [] => plain
  | info :: _ => if info.message.isEmpty then plain else info.message ++ " (" ++ info.messageId ++ ")"

end ServiceError

end Redfish
