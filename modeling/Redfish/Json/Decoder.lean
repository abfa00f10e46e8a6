import Redfish.Json.Outline
import Redfish.Json.Value

/-!
# Decoding an outline

A decoder walks the outline of a text and gives a value of its type or the first fault it meets. It is
given the number of levels of nesting that it may still open; the reader of a document starts with
`Decoder.levels`, and a value that is only skipped may be nested to any depth.
-/

namespace Redfish.Json

/-- Decodes the outline of a value, within a number of levels of nesting. -/
abbrev Decoder (α : Type) := (levels : Nat) → Outline → Except Fault α

def deeper (levels : Nat) : Except Fault Nat :=
  if levels ≤ 1 then .error .malformed else .ok (levels - 1)

def refuse (flaw : Option Fault) : Except Fault Unit :=
  match flaw with
  | none => .ok ()
  | some fault => .error fault

def Close.check : Close → Except Fault Unit
  | .closed => .ok ()
  | .broken fault _ => .error fault

namespace Outline

mutual

/-- Any value at all. Of members of one name the last counts. -/
def value (levels : Nat) : Outline → Except Fault Value
  | .word w flaw => do
    refuse flaw
    return match w with
      | .null => .null
      | .yes => .bool true
      | .no => .bool false
  | .number n => n.value.map .number
  | .text t => t.content.map .text
  | .array items flaw => do
    let levels ← deeper levels
    let vs ← itemValues levels items
    refuse flaw
    return .array vs
  | .object members close => do
    let levels ← deeper levels
    let ms ← memberValues levels members
    close.check
    return .object (Table.ofList ms)
  | .missing fault => .error fault

def itemValues (levels : Nat) : List Outline → Except Fault (List Value)
  | [] => .ok []
  | o :: items => do
    let v ← o.value levels
    let vs ← itemValues levels items
    return v :: vs

def memberValues (levels : Nat) : List (Text × Outline) → Except Fault (List (String × Value))
  | [] => .ok []
  | (name, o) :: members => do
    let n ← name.content
    let v ← o.value levels
    let ms ← memberValues levels members
    return (n, v) :: ms

end

/-- A value of any kind, looked at for its grammar alone. -/
def skip (o : Outline) : Except Fault Unit := refuse o.flaw?

end Outline

namespace Decoder

def levels : Nat := 128

def bool : Decoder Bool
  | _, .word .yes none => .ok true
  | _, .word .no none => .ok false
  | _, o => .error o.mismatch

def text : Decoder String
  | _, .text t => t.content
  | _, o => .error o.mismatch

def number : Decoder Number
  | _, .number n => n.value
  | _, o => .error o.mismatch

def natural (bound : Nat) : Decoder Nat := fun l o => do
  match ← number l o with
  | .integer i => if 0 ≤ i ∧ i < bound then .ok i.toNat else .error (.data .invalidValue)
  | .real _ => .error (.data .invalidType)

/-- A real, which may be written as an integer. -/
def real : Decoder Float := fun l o => do
  match ← number l o with
  | .integer i => .ok (Float.ofInt i)
  | .real x => .ok x

def optional (d : Decoder α) : Decoder (Option α)
  | _, .word .null flaw => do
    refuse flaw
    return none
  | l, o => (d l o).map some

def items (d : Decoder α) (levels : Nat) : List Outline → Except Fault (List α)
  | [] => .ok []
  | o :: rest => do
    let a ← d levels o
    let as ← items d levels rest
    return a :: as

def list (d : Decoder α) : Decoder (List α)
  | l, .array os flaw => do
    let l ← deeper l
    let as ← items d l os
    refuse flaw
    return as
  | _, o => .error o.mismatch

/-- A tag: a text, or an object with one member whose name is the tag and whose value is `null`. -/
def tag : Decoder String
  | _, .text t => t.content
  | l, .object members close => do
    let _ ← deeper l
    match members with
    | [] => match close with
      | .closed => .error .malformed
      | .broken _ fault => .error fault
    | (name, o) :: more =>
      let n ← name.content
      match o with
      | .word .null flaw => refuse flaw
      | o => .error o.mismatch
      if more.isEmpty then
        match close with
        | .closed => .ok n
        | .broken _ fault => .error fault
      else .error .malformed
  | _, .missing fault => .error fault
  | _, _ => .error .malformed

/-- Decodes a whole text. Nothing but blanks may follow the value. -/
def run (d : Decoder α) (bs : Bytes) : Except Fault α :=
  match Outline.read bs with
  | (o, rest) => do
    let a ← d levels o
    match rest with
    | some rest => if Outline.skipBlanks rest = [] then .ok a else .error .malformed
    | none => .error (o.flaw?.getD .malformed)

end Decoder

end Redfish.Json
