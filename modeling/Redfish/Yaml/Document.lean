import Redfish.Yaml.Scanner

/-!
# From the tokens of a YAML text to its document

A reference stands for the node that its name was last given to before it. Nodes are known by the number
of names that were in use when they were named; of several nodes with the same number the last counts,
wherever the reference stands.
-/

namespace Redfish.Yaml

inductive Node
  | scalar (style : Style) (tag : Option Bytes) (text : String)
  | sequence (items : List Node)
  | mapping (pairs : List (Node × Node))
  | reference (number : Nat)

structure Names where
  handles : List (List Char × Bytes)
  /-- The names in use, each once, with the number it stands for. -/
  numbers : List (List Char × Nat)
  /-- Which of the named nodes a number stands for. -/
  places : List (Nat × Nat)
  count : Nat
  nodes : List (Nat × Node)

namespace Names

def empty (handles : List (List Char × Bytes)) : Names := ⟨handles, [], [], 0, []⟩

def open_ (name : Option (List Char)) (n : Names) : Option Nat × Names :=
  match name with
  | none => (none, n)
  | some name =>
    let number := n.numbers.length
    (some n.count,
      { n with
        numbers := (name, number) :: n.numbers.filter (·.1 ≠ name)
        places := (number, n.count) :: n.places
        count := n.count + 1 })

def close (place : Option Nat) (node : Node) (n : Names) : Names :=
  match place with
  | none => n
  | some p => { n with nodes := (p, node) :: n.nodes }

def tag? (handle : List Char) (suffix : Bytes) (n : Names) : Option Bytes :=
  if handle.isEmpty then some suffix else (n.handles.lookup handle).map (· ++ suffix)

end Names

structure Properties where
  anchor : Option (List Char)
  tag : Option Bytes

namespace Properties

def none : Properties := ⟨Option.none, Option.none⟩

def isNone (p : Properties) : Bool := p.anchor.isNone && p.tag.isNone

end Properties

def readProperties (n : Names) : List Token → Option (Properties × List Token)
  | .anchor a :: .tag h s :: ts => (n.tag? h s).map fun t => (⟨some a, some t⟩, ts)
  | .tag h s :: .anchor a :: ts => (n.tag? h s).map fun t => (⟨some a, some t⟩, ts)
  | .anchor a :: ts => some (⟨some a, none⟩, ts)
  | .tag h s :: ts => (n.tag? h s).map fun t => (⟨none, some t⟩, ts)
  | ts => some (.none, ts)

def emptyNode : Node := .scalar .plain none ""

inductive Position
  | inBrackets
  | ofList
  /-- A list in a mapping need not be indented. -/
  | ofMapping
  deriving DecidableEq, Repr

def endsItems : Token → Bool
  | .item | .key | .value | .blockEnd => true
  | _ => false

def endsEntry : Token → Bool
  | .key | .value | .blockEnd => true
  | _ => false

def endsFlow (close : Token) (t : Token) : Bool := t = .comma || t = close

mutual

/-- Reads a node. Every step that takes no token goes to a later kind of step, and there are fewer than
four kinds, so four times the number of tokens is fuel enough. -/
def readNode : (fuel : Nat) → Position → Names → List Token → Option (Node × Names × List Token)
  | 0, _, _, _ => none
  | fuel + 1, position, n, ts =>
    match ts with
    | .reference name :: ts => (n.numbers.lookup name).map fun number => (.reference number, n, ts)
    | ts => do
      let (p, ts) ← readProperties n ts
      let (place, n) := n.open_ p.anchor
      let (node, n, ts) ← match ts with
        | .scalar style text :: ts => some (.scalar style p.tag (String.ofList text), n, ts)
        | .openSequence :: ts => do
          let (items, n, ts) ← readFlowItems fuel true n ts
          some (.sequence items, n, ts)
        | .openMapping :: ts => do
          let (pairs, n, ts) ← readFlowPairs fuel true n ts
          some (.mapping pairs, n, ts)
        | .blockSequence :: ts =>
          if position = .inBrackets then none else do
            let (items, n, ts) ← readItems fuel n ts
            some (.sequence items, n, ts)
        | .blockMapping :: ts =>
          if position = .inBrackets then none else do
            let (pairs, n, ts) ← readPairs fuel n ts
            some (.mapping pairs, n, ts)
        | .item :: ts =>
          if position = .ofMapping then do
            let (items, n, ts) ← readLooseItems fuel n (.item :: ts)
            some (.sequence items, n, ts)
          else if p.isNone then none
          else some (.scalar .plain p.tag "", n, .item :: ts)
        | ts => if p.isNone then none else some (.scalar .plain p.tag "", n, ts)
      some (node, n.close place node, ts)

def readItems : (fuel : Nat) → Names → List Token → Option (List Node × Names × List Token)
  | 0, _, _ => none
  | fuel + 1, n, ts =>
    match ts with
    | .blockEnd :: ts => some ([], n, ts)
    | .item :: ts => do
      let (node, n, ts) ←
        if ts.head?.any fun t => t = .item || t = .blockEnd then some (emptyNode, n, ts)
        else readNode fuel .ofList n ts
      let (items, n, ts) ← readItems fuel n ts
      some (node :: items, n, ts)
    | _ => none

def readLooseItems : (fuel : Nat) → Names → List Token → Option (List Node × Names × List Token)
  | 0, _, _ => none
  | fuel + 1, n, ts =>
    match ts with
    | .item :: ts => do
      let (node, n, ts) ←
        if ts.head?.any endsItems then some (emptyNode, n, ts) else readNode fuel .ofList n ts
      let (items, n, ts) ← readLooseItems fuel n ts
      some (node :: items, n, ts)
    | ts => some ([], n, ts)

def readPairs : (fuel : Nat) → Names → List Token →
    Option (List (Node × Node) × Names × List Token)
  | 0, _, _ => none
  | fuel + 1, n, ts =>
    match ts with
    | .blockEnd :: ts => some ([], n, ts)
    | .key :: ts => do
      let (key, n, ts) ←
        if ts.head?.any endsEntry then some (emptyNode, n, ts) else readNode fuel .ofMapping n ts
      let (value, n, ts) ← match ts with
        | .value :: ts =>
          if ts.head?.any endsEntry then some (emptyNode, n, ts) else readNode fuel .ofMapping n ts
        | ts => some (emptyNode, n, ts)
      let (pairs, n, ts) ← readPairs fuel n ts
      some ((key, value) :: pairs, n, ts)
    | _ => none

def readFlowItems : (fuel : Nat) → (first : Bool) → Names → List Token →
    Option (List Node × Names × List Token)
  | 0, _, _, _ => none
  | fuel + 1, first, n, ts =>
    match ts with
    | .closeSequence :: ts => some ([], n, ts)
    | ts => do
      let ts ← if first then some ts else
        match ts with
        | .comma :: ts => some ts
        | _ => none
      match ts with
      | .closeSequence :: ts => some ([], n, ts)
      | ts =>
        let (node, n, ts) ← match ts with
          | .key :: ts => readSinglePair fuel n ts
          | ts => readNode fuel .inBrackets n ts
        let (items, n, ts) ← readFlowItems fuel false n ts
        some (node :: items, n, ts)

/-- Reads a mapping of one pair between brackets, behind the mark of its key. A key that is not written
swallows the mark behind it. -/
def readSinglePair : (fuel : Nat) → Names → List Token → Option (Node × Names × List Token)
  | 0, _, _ => none
  | fuel + 1, n, ts => do
    let (key, n, ts) ←
      if ts.head?.all fun t => t = .value || endsFlow .closeSequence t then
        some (emptyNode, n, ts.drop 1)
      else readNode fuel .inBrackets n ts
    let (value, n, ts) ← match ts with
      | .value :: ts =>
        if ts.head?.any (endsFlow .closeSequence) then some (emptyNode, n, ts)
        else readNode fuel .inBrackets n ts
      | ts => some (emptyNode, n, ts)
    some (.mapping [(key, value)], n, ts)

def readFlowPairs : (fuel : Nat) → (first : Bool) → Names → List Token →
    Option (List (Node × Node) × Names × List Token)
  | 0, _, _, _ => none
  | fuel + 1, first, n, ts =>
    match ts with
    | .closeMapping :: ts => some ([], n, ts)
    | ts => do
      let ts ← if first then some ts else
        match ts with
        | .comma :: ts => some ts
        | _ => none
      match ts with
      | .closeMapping :: ts => some ([], n, ts)
      | .key :: ts =>
        let (key, n, ts) ←
          if ts.head?.any fun t => t = .value || endsFlow .closeMapping t then
            some (emptyNode, n, ts)
          else readNode fuel .inBrackets n ts
        let (value, n, ts) ← match ts with
          | .value :: ts =>
            if ts.head?.any (endsFlow .closeMapping) then some (emptyNode, n, ts)
            else readNode fuel .inBrackets n ts
          | ts => some (emptyNode, n, ts)
        let (pairs, n, ts) ← readFlowPairs fuel false n ts
        some ((key, value) :: pairs, n, ts)
      | ts =>
        let (key, n, ts) ← readNode fuel .inBrackets n ts
        let (pairs, n, ts) ← readFlowPairs fuel false n ts
        some ((key, emptyNode) :: pairs, n, ts)

end

def usualHandles : List (List Char × Bytes) :=
  [(['!'], Bytes.ofText "!"), (['!', '!'], Bytes.ofText "tag:yaml.org,2002:")]

def readDirectives : (versioned : Bool) → (handles : List (List Char × Bytes)) → List Token →
    Option (List (List Char × Bytes) × List Token)
  | versioned, handles, .version major minor :: ts =>
    if versioned || major ≠ 1 || (minor ≠ 1 && minor ≠ 2) then none
    else readDirectives true handles ts
  | versioned, handles, .handle name meaning :: ts =>
    if (handles.lookup name).isSome then none
    else readDirectives versioned ((name, meaning) :: handles) ts
  | _, handles, ts => some (handles, ts)

def endsContent : Token → Bool
  | .version .. | .handle .. | .documentStart | .documentEnd => true
  | _ => false

structure Document where
  /-- The node of the document; a text without documents has none. -/
  root : Option Node
  names : Names

namespace Document

/-- Reads a document from its first token on, and makes sure that no other follows it. -/
def read (ts : List Token) : Option Document := do
  let fuel := 4 * ts.length + 4
  let (root, names, ts) ← match ts with
    | [] => some (none, Names.empty [], [])
    | t :: _ =>
      if (t matches .version .. | .handle .. | .documentStart) then do
        let (handles, ts) ← readDirectives false [] ts
        match ts with
        | .documentStart :: ts =>
          let names := Names.empty (handles ++ usualHandles)
          if ts.head?.all endsContent then some (some emptyNode, names, ts)
          else do
            let (node, names, ts) ← readNode fuel .ofList names ts
            some (some node, names, ts)
        | _ => none
      else do
        let (node, names, ts) ← readNode fuel .ofList (Names.empty usualHandles) ts
        some (some node, names, ts)
  if ts.all (· = .documentEnd) then some ⟨root, names⟩ else none

def ofText? (text : String) : Option Document := (tokens? text).bind read

def resolve (d : Document) : Node → Option Node
  | .reference number => do
    let place ← d.names.places.lookup number
    d.names.nodes.lookup place
  | node => some node

end Document

end Redfish.Yaml
