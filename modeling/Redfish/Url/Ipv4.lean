import Redfish.Text.Hex
import Redfish.Text.Utf8
import Redfish.Url.Fault

/-!
# IPv4 addresses

An address is written as up to four numbers, the last of which fills what the others leave. A number is
decimal, octal after a zero or hexadecimal after `0x`.
-/

namespace Redfish.Url.Ipv4

def isDigit (c : Char) : Bool := '0' ≤ c && c ≤ '9'

def digits? (base : Nat) (cs : List Char) : Option Nat :=
  cs.foldlM (fun n c =>
    match Hex.number? (Bytes.ofText c.toString) with
    | some d => if d < base then some (base * n + d) else none
    | none => none) 0

/-- The number that a part spells. A bare `0x` spells zero. -/
def number? : List Char → Option Nat
  | [] => none
  | '0' :: 'x' :: cs => digits? 16 cs
  | '0' :: 'X' :: cs => digits? 16 cs
  | '0' :: c :: cs => digits? 8 (c :: cs)
  | cs => digits? 10 cs

/-- The parts between the dots, without an empty one at the end. -/
def parts (cs : List Char) : List (List Char) :=
  let ps := cs.splitOn '.'
  if ps.getLast? = some [] then ps.dropLast else ps

/-- Whether a domain ends in a number, so that it has to be an address. -/
def endsInNumber (domain : List Char) : Bool :=
  match (parts domain).getLast? with
  | none => false
  | some p => !p.isEmpty && (p.all isDigit || (number? p).isSome)

def parse (domain : List Char) : Except Fault Nat :=
  let ps := parts domain
  if 4 < ps.length then .error .invalidIpv4
  else
    match ps.mapM number? with
    | none => .error .invalidIpv4
    | some ns =>
      let leading := ns.dropLast
      let last := ns.getLast?.getD 0
      if leading.any (255 < ·) || Nat.pow 256 (4 - leading.length) ≤ last then .error .invalidIpv4
      else .ok ((leading ++ List.replicate (4 - leading.length) 0).foldl (256 * · + ·) 0 + last)

def text (a : Nat) : String :=
  ".".intercalate ([a / 16777216, a / 65536 % 256, a / 256 % 256, a % 256].map toString)

end Redfish.Url.Ipv4
