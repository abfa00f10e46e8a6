import Redfish.Yaml.Document

/-!
# Reading values from a document

A plain scalar has the type that is asked for: it is a text whatever it looks like, and it is a number, a
truth value or nothing if it is written like one. Quoted scalars are only texts.
-/

namespace Redfish.Yaml

namespace Document

def text? (d : Document) (node : Node) : Option String :=
  match d.resolve node with
  | some (.scalar _ _ s) => some s
  | _ => none

def nullTag : Bytes := Bytes.ofText "tag:yaml.org,2002:null"

def boolTag : Bytes := Bytes.ofText "tag:yaml.org,2002:bool"

def intTag : Bytes := Bytes.ofText "tag:yaml.org,2002:int"

def isNull (s : String) : Bool := ["null", "Null", "NULL", "~"].contains s

/-- Whether a node stands for a value rather than for nothing. -/
def isPresent? (d : Document) (node : Node) : Option Bool :=
  match d.resolve node with
  | some (.scalar .plain none s) => some (!s.isEmpty && !isNull s)
  | some (.scalar .plain (some tag) s) =>
    if tag = nullTag then if isNull s then some false else none
    else some true
  | some _ => some true
  | none => none

def optional? (read : Node → Option α) (d : Document) (node : Node) : Option (Option α) := do
  if ← d.isPresent? node then (read node).map some else some none

/-- The text of a scalar that is not quoted. A literal one needs the tag of its type. -/
def bareText? (tag : Bytes) (d : Document) (node : Node) : Option String :=
  match d.resolve node with
  | some (.scalar .plain _ s) => some s
  | some (.scalar .literal (some t) s) => if t = tag then some s else none
  | _ => none

def bool? (d : Document) (node : Node) : Option Bool := do
  let s ← d.bareText? boolTag node
  if ["true", "True", "TRUE"].contains s then some true
  else if ["false", "False", "FALSE"].contains s then some false
  else none

def digits? (base : Nat) (cs : List Char) : Option Nat :=
  if cs.isEmpty then none
  else cs.foldlM (fun n c => do
    let d ← Hex.number? (Bytes.ofText c.toString)
    if d < base then some (base * n + d) else none) 0

/-- The natural number that a text spells: decimal without a superfluous zero, or in another base behind
its mark. -/
def natural? (cs : List Char) : Option Nat :=
  let unsigned := match cs with
    | '+' :: cs => cs
    | cs => cs
  match unsigned with
  | '0' :: 'x' :: cs => digits? 16 cs
  | '0' :: 'o' :: cs => digits? 8 cs
  | '0' :: 'b' :: cs => digits? 2 cs
  | '0' :: _ :: _ => none
  | cs => digits? 10 cs

def uint64? (d : Document) (node : Node) : Option UInt64 := do
  let n ← natural? (← d.bareText? intTag node).toList
  if n < UInt64.size then some (UInt64.ofNat n) else none

/-- The pairs of a mapping. A scalar that is not written is an empty one. -/
def pairs? (d : Document) (node : Node) : Option (List (Node × Node)) :=
  match d.resolve node with
  | some (.mapping ps) => some ps
  | some (.scalar .plain _ s) => if s.isEmpty then some [] else none
  | _ => none

/-- A field of values of type `α`: its name and how its value is set from a node. -/
structure FieldReader (α : Type) where
  name : String
  set : Document → Node → α → Option α

/-- Sets the fields that the pairs hold. A field may stand there once; other pairs are ignored. -/
def readFields (fields : List (FieldReader α)) (d : Document) :
    (seen : List String) → α → List (Node × Node) → Option α
  | _, a, [] => some a
  | seen, a, (key, value) :: rest => do
    let name ← d.text? key
    match fields.find? (·.name == name) with
    | none => readFields fields d seen a rest
    | some f =>
      if seen.contains name then none
      else
        let a ← f.set d value a
        readFields fields d (name :: seen) a rest

end Document

end Redfish.Yaml
