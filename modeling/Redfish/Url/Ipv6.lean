import Redfish.Url.Ipv4

/-!
# IPv6 addresses

An address is eight groups of sixteen bits. It is written with a colon between the groups; two colons
stand for a run of zeros, and an IPv4 address may stand for the last two groups. In its usual form the
first of the longest runs of zeros is left out.
-/

namespace Redfish.Url.Ipv6

def digit? (c : Char) : Option Nat := Hex.number? (Bytes.ofText c.toString)

def readGroup : (count : Nat) → (value : Nat) → List Char → Nat × List Char
  | 0, value, cs => (value, cs)
  | _ + 1, value, [] => (value, [])
  | count + 1, value, c :: cs =>
    match digit? c with
    | some d => readGroup count (16 * value + d) cs
    | none => (value, c :: cs)

/-- A part of an embedded IPv4 address: up to 255, without a superfluous zero. -/
def embeddedPart? : List Char → Option Nat
  | [] => none
  | ['0'] => some 0
  | '0' :: _ => none
  | cs => (Ipv4.digits? 10 cs).filter (· ≤ 255)

def embedded? (cs : List Char) : Option (Nat × Nat) := do
  let [a, b, c, d] ← (cs.splitOn '.').mapM embeddedPart? | none
  return (256 * a + b, 256 * c + d)

structure Groups where
  read : List Nat
  gap : Option Nat

namespace Groups

/-- The number of places taken; two colons take one. -/
def places (g : Groups) : Nat := g.read.length + if g.gap.isSome then 1 else 0

def push (n : Nat) (g : Groups) : Groups := { g with read := g.read ++ [n] }

def complete? (g : Groups) : Option (List Nat) :=
  match g.gap with
  | none => if g.read.length = 8 then some g.read else none
  | some at_ =>
    if g.read.length < 8 then
      some (g.read.take at_ ++ List.replicate (8 - g.read.length) 0 ++ g.read.drop at_)
    else none

end Groups

/-- Reads the groups from the start of one. Each step takes at least one character, so the length of
the text is fuel enough. -/
def readGroups : (fuel : Nat) → Groups → List Char → Option Groups
  | _, g, [] => some g
  | 0, _, _ :: _ => none
  | fuel + 1, g, c :: cs =>
    if g.places = 8 then none
    else if c = ':' then
      if g.gap.isSome then none else readGroups fuel { g with gap := some g.read.length } cs
    else
      match readGroup 4 0 (c :: cs) with
      | (n, []) => some (g.push n)
      | (n, ':' :: rest) => if rest.isEmpty then none else readGroups fuel (g.push n) rest
      | (_, '.' :: _) =>
        if g.places ≤ 6 then (embedded? (c :: cs)).map fun (a, b) => (g.push a).push b else none
      | _ => none

def parse (cs : List Char) : Except Fault (List Nat) :=
  let groups : Option Groups :=
    match cs with
    | ':' :: ':' :: rest => readGroups rest.length ⟨[], some 0⟩ rest
    | ':' :: _ => none
    | [] => none
    | [_] => none
    | cs => readGroups cs.length ⟨[], none⟩ cs
  match groups.bind Groups.complete? with
  | some g => .ok g
  | none => .error .invalidIpv6

/-- The first of the longest runs of zeros: where it starts and its length. -/
def longestRun : (position : Nat) → List Nat → Nat × Nat
  | _, [] => (0, 0)
  | position, n :: ns =>
    let here := ((n :: ns).takeWhile (· = 0)).length
    let later := longestRun (position + 1) ns
    if later.2 ≤ here then (position, here) else later

def groupsText (ns : List Nat) : String := ":".intercalate (ns.map Hex.lower)

def text (groups : List Nat) : String :=
  match groups with
  | [0, 0, 0, 0, 0, 0xFFFF, a, b] => "::ffff:" ++ Ipv4.text (65536 * a + b)
  | _ =>
    let (start, length) := longestRun 0 groups
    if length ≤ 1 then groupsText groups
    else groupsText (groups.take start) ++ "::" ++ groupsText (groups.drop (start + length))

end Redfish.Url.Ipv6
