/-!
# What can be wrong with a URL
-/

namespace Redfish.Url

inductive Fault
  | emptyHost
  | invalidDomain
  | invalidHostCharacter
  | invalidIpv4
  | invalidIpv6
  | invalidPort
  | noBase
  deriving DecidableEq, Repr

def Fault.words : Fault → String
  | .emptyHost => "empty host"
  | .invalidDomain => "invalid international domain name"
  | .invalidHostCharacter => "invalid domain character"
  | .invalidIpv4 => "invalid IPv4 address"
  | .invalidIpv6 => "invalid IPv6 address"
  | .invalidPort => "invalid port number"
  | .noBase => "relative URL without a base"

end Redfish.Url
