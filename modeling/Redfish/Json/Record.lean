import Redfish.Json.Codec

/-!
# Types written as objects

A record is described by its members: for each the name on the wire, how to get it and how to set it.
Both directions use the one description. Decoding starts from the record in which every member is
absent and sets the members in the order of the text; a known member may stand there once. A record
may also be written as the array of its members in their declared order, missing ones at the end.
-/

namespace Redfish.Json

structure Member (α : Type) where
  name : String
  {Content : Type}
  [codec : Codec Content]
  get : α → Content
  set : Content → α → α
  omitted : Content → Bool := fun _ => false

namespace Member

def assign (m : Member α) (levels : Nat) (o : Outline) (a : α) : Except Fault α :=
  (m.codec.decode levels o).map (m.set · a)

def always [Codec β] (name : String) (get : α → β) (set : β → α → α) : Member α :=
  { name, get, set }

/-- An optional member, left out while it is absent. -/
def optional [Codec β] (name : String) (get : α → Option β) (set : Option β → α → α) : Member α :=
  { name, get, set, omitted := Option.isNone }

/-- A list, left out while it is empty. -/
def listed [Codec β] (name : String) (get : α → List β) (set : List β → α → α) : Member α :=
  { name, get, set, omitted := List.isEmpty }

def written (m : Member α) (a : α) : Option (String × Value) :=
  if m.omitted (m.get a) then none else some (m.name, m.codec.encode (m.get a))

end Member

class Record (α : Type) where
  blank : α
  members : List (Member α)

namespace Record

/-- Sets the known members from the members of a text. `seen` holds the names met so far; a member
that is not known is left to `other`. -/
def absorb (known : List (Member α)) (other : Outline → Except Fault Unit) (levels : Nat) :
    (seen : List String) → α → List (Text × Outline) → Except Fault α
  | _, a, [] => .ok a
  | seen, a, (name, o) :: rest => do
    let n ← name.content
    match known.find? (·.name == n) with
    | none =>
      other o
      absorb known other levels seen a rest
    | some m =>
      if seen.contains n then .error (.data .duplicateField)
      else
        let a ← m.assign levels o a
        absorb known other levels (n :: seen) a rest

/-- Sets members in their declared order from the items of an array. -/
def absorbItems (levels : Nat) : List (Member α) → α → List Outline → Except Fault α
  | _, a, [] => .ok a
  | [], _, _ :: _ => .error .malformed
  | m :: ms, a, o :: os => do
    let a ← m.assign levels o a
    absorbItems levels ms a os

variable [Record α]

/-- Decodes an object, unknown members of which are skipped, or an array of members. -/
def decode : Decoder α
  | levels, .object ms close => do
    let levels ← deeper levels
    let a ← absorb (members (α := α)) Outline.skip levels [] blank ms
    close.check
    return a
  | levels, .array os flaw => do
    let levels ← deeper levels
    let a ← absorbItems levels (members (α := α)) blank os
    refuse flaw
    return a
  | _, o => .error o.mismatch

def written (a : α) : List (String × Value) := (members (α := α)).filterMap (·.written a)

def encode (a : α) : Value := .object (Table.ofList (written a))

@[reducible] def codec : Codec α := ⟨decode, encode⟩

end Record

end Redfish.Json
