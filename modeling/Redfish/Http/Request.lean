import Redfish.Http.Header
import Redfish.Http.Method

/-!
# Requests

The target of a request is a path with an optional query. A fragment may be written behind it, but is
not sent.
-/

namespace Redfish.Http

def isPathByte (b : UInt8) : Bool :=
  b = 0x21 || b = 0x22 || (0x24 ≤ b && b ≤ 0x3B) || b = 0x3D || (0x40 ≤ b && b ≤ 0x5F) ||
    (0x61 ≤ b && b ≤ 0x7E) || 0x80 ≤ b

def isQueryByte (b : UInt8) : Bool :=
  b = 0x21 || (0x24 ≤ b && b ≤ 0x3B) || b = 0x3D || (0x3F ≤ b && b ≤ 0x7E) || 0x80 ≤ b

inductive TargetFault
  | tooLong
  | invalidCharacter
  deriving DecidableEq, Repr

def TargetFault.words : TargetFault → String
  | .tooLong => "uri too long"
  | .invalidCharacter => "invalid uri character"

def sentTarget (target : String) : Except TargetFault Bytes :=
  let bytes := Bytes.ofText target
  let sent := bytes.takeWhile (· ≠ 0x23)
  let path := sent.takeWhile (· ≠ 0x3F)
  let query := sent.drop (path.length + 1)
  if 65534 < bytes.length then .error .tooLong
  else if path.all isPathByte && query.all isQueryByte then .ok sent
  else .error .invalidCharacter

structure Request where
  method : Method
  target : Bytes
  headers : Headers
  body : Bytes
  deriving DecidableEq, Repr

namespace Request

def line (r : Request) : String := r.method.name ++ " " ++ r.target.text ++ " HTTP/1.1"

/-- The header fields that are sent: a body is announced by its length. -/
def sentHeaders (r : Request) : Headers :=
  if r.body.isEmpty then r.headers
  else r.headers.insert "content-length" ⟨Bytes.ofText (toString r.body.length), false⟩

end Request

end Redfish.Http
