import Redfish.Text.NormalForm
import Redfish.Url.Domain.Compound
import Redfish.Url.Domain.Refused
import Redfish.Url.Domain.Variant

/-!
# What the characters of a domain stand for

Names that read the same are the same domain: each character of a name stands for itself, for others or
for nothing, and the whole is put into normal form. A character that may not occur makes the name
meaningless.
-/

namespace Redfish.Url.Domain

def isAscii (cs : List Char) : Bool := cs.all (·.toNat < 0x80)

/-- What a character stands for, unless it may not occur. -/
def meaningOf? (c : Char) : Option (List Char) :=
  if c.toNat < 0x80 then some [c.toLower]
  else if CodePoint.within dropped c then some []
  else if CodePoint.within refused c then none
  else
    match variant? c with
    | some n => some [Char.ofNat n]
    | none => some (((compound? c).map (·.map Char.ofNat)).getD [c])

def isPlain (c : Char) : Bool := meaningOf? c = some [c]

def meaning? (name : List Char) : Option (List Char) :=
  if isAscii name then some (name.map Char.toLower)
  else (name.mapM meaningOf?).map fun parts => NormalForm.of parts.flatten

end Redfish.Url.Domain
