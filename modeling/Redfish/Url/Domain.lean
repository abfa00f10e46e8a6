import Redfish.Url.Domain.Label
import Redfish.Url.Fault

/-!
# Domain names

A domain is compared and sent in ASCII: what it stands for is cut into labels at the dots, and those that
have other characters are written in Punycode.
-/

namespace Redfish.Url.Domain

def isForbidden (c : Char) : Bool :=
  c ≤ ' ' || c = '\x7F' || ['%', '#', '/', ':', '<', '>', '?', '@', '[', '\\', ']', '^', '|'].contains c

/-- The labels of a name, if all of its parts are labels and go together. -/
def labels? (name : List Char) : Option (List Label) := do
  let labels ← ((← meaning? name).splitOn '.').mapM Label.of?
  if Label.directionsFit labels then some labels else none

def toAscii (name : List Char) : Except Fault (List Char) :=
  match labels? name with
  | none => .error .invalidDomain
  | some labels =>
    let ascii := ['.'].intercalate (labels.map (·.ascii))
    if ascii.any isForbidden then .error .invalidDomain else .ok ascii

end Redfish.Url.Domain
