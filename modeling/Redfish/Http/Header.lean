import Redfish.Text.Hex
import Redfish.Text.Utf8

/-!
# Header fields

Names are kept in lower case. The values of one name stand together, at the place where the name first
appeared.
-/

namespace Redfish.Http

/-- The value of a header field. A sensitive one is not shown to readers. -/
structure HeaderValue where
  bytes : Bytes
  sensitive : Bool
  deriving DecidableEq, Repr

namespace HeaderValue

/-- Bytes that a value may hold: no control characters but the tab. -/
def isAllowed (b : UInt8) : Bool := b = 0x09 || (0x20 ≤ b && b != 0x7F)

/-- Bytes that a value may hold and still be read as text. -/
def isVisible (b : UInt8) : Bool := b = 0x09 || (0x20 ≤ b && b ≤ 0x7E)

def ofBytes? (bs : Bytes) : Option HeaderValue :=
  if bs.all isAllowed then some ⟨bs, false⟩ else none

def ofText? (s : String) : Option HeaderValue := ofBytes? (Bytes.ofText s)

def markSensitive (v : HeaderValue) : HeaderValue := { v with sensitive := true }

def text? (v : HeaderValue) : Option String :=
  if v.bytes.all isVisible then v.bytes.text? else none

def shownByte (b : UInt8) : String :=
  if b = 0x22 then "\\\""
  else if isVisible b then (Char.ofNat b.toNat).toString
  else "\\x" ++ Hex.lower b.toNat

def shown (v : HeaderValue) : String :=
  if v.sensitive then "Sensitive"
  else "\"" ++ String.join (v.bytes.map shownByte) ++ "\""

end HeaderValue

/-- Header fields, grouped by name. -/
structure Headers where
  groups : List (String × List HeaderValue)
  deriving DecidableEq, Repr

namespace Headers

def empty : Headers := ⟨[]⟩

def append (name : String) (v : HeaderValue) (h : Headers) : Headers :=
  ⟨go h.groups⟩
where
  go : List (String × List HeaderValue) → List (String × List HeaderValue)
    | [] => [(name, [v])]
    | (n, vs) :: rest => if n = name then (n, vs ++ [v]) :: rest else (n, vs) :: go rest

def insert (name : String) (v : HeaderValue) (h : Headers) : Headers :=
  ⟨go h.groups⟩
where
  go : List (String × List HeaderValue) → List (String × List HeaderValue)
    | [] => [(name, [v])]
    | (n, vs) :: rest => if n = name then (n, [v]) :: rest else (n, vs) :: go rest

def get? (h : Headers) (name : String) : Option HeaderValue :=
  (h.groups.lookup name).bind List.head?

def fields (h : Headers) : List (String × HeaderValue) :=
  h.groups.flatMap fun (name, vs) => vs.map (name, ·)

/-- Inserts every field in turn, so that of several values of a name the last one stays. -/
def insertAll (extra h : Headers) : Headers :=
  extra.fields.foldl (fun h f => h.insert f.1 f.2) h

end Headers

end Redfish.Http
