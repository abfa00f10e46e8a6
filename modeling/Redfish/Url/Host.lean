import Redfish.Url.Domain
import Redfish.Url.Ipv6
import Redfish.Url.Percent

/-!
# Hosts
-/

namespace Redfish.Url

inductive Host
  | domain (name : String)
  | ipv4 (address : Nat)
  | ipv6 (groups : List Nat)
  deriving DecidableEq, Repr

namespace Host

/-- The host as a connection is made to it: an address without brackets. -/
def text : Host → String
  | domain name => name
  | ipv4 address => Ipv4.text address
  | ipv6 groups => Ipv6.text groups

def bracketed? (cs : List Char) : Option (Except Fault Host) :=
  match cs with
  | '[' :: rest =>
    some <| if rest.getLast? = some ']' then (Ipv6.parse rest.dropLast).map ipv6
      else .error .invalidIpv6
  | _ => none

def parse (cs : List Char) : Except Fault Host :=
  match bracketed? cs with
  | some result => result
  | none => do
    let decoded ← match (percentDecode (Bytes.ofText (String.ofList cs))).text? with
      | some s => pure s.toList
      | none => throw .invalidDomain
    let name ← Domain.toAscii decoded
    if name.isEmpty then throw .emptyHost
    if Ipv4.endsInNumber name then return ipv4 (← Ipv4.parse name)
    return domain (String.ofList name)

def isForbidden (c : Char) : Bool :=
  ['\x00', '\t', '\n', '\r', ' ', '#', '/', ':', '<', '>', '?', '@', '[', '\\', ']', '^', '|'].contains c

/-- The host of any other URL, which is not looked into. -/
def parseOpaque (cs : List Char) : Except Fault Host :=
  match bracketed? cs with
  | some result => result
  | none =>
    if cs.any isForbidden then .error .invalidHostCharacter
    else .ok (domain (String.ofList (percentEncode isControl cs)))

end Host

end Redfish.Url
