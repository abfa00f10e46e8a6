import Redfish.Json.Decoder
import Redfish.Json.Printer

/-!
# Types with a JSON form

A type with a JSON form has a decoder and an encoder. Enumerations are given by the table of their
wire names; a text outside the table stands for the value kept for that purpose.
-/

namespace Redfish.Json

class Codec (α : Type) where
  decode : Decoder α
  encode : α → Value

namespace Codec

instance : Codec Bool := ⟨Decoder.bool, .bool⟩

instance : Codec String := ⟨Decoder.text, .text⟩

instance : Codec Value := ⟨Outline.value, id⟩

instance : Codec UInt32 where
  decode l o := (Decoder.natural UInt32.size l o).map UInt32.ofNat
  encode n := .number (.integer n.toNat)

instance : Codec UInt64 where
  decode l o := (Decoder.natural UInt64.size l o).map UInt64.ofNat
  encode n := .number (.integer n.toNat)

/-- JSON has no form for infinities and for what is not a number; they are written as `null`. -/
instance : Codec Float where
  decode := Decoder.real
  encode x := if x.isFinite then .number (.real x) else .null

instance [Codec α] : Codec (Option α) where
  decode := Decoder.optional decode
  encode
    | none => .null
    | some a => encode a

instance [Codec α] : Codec (List α) where
  decode := Decoder.list decode
  encode as := .array (as.map encode)

end Codec

def decodeText [Codec α] (s : String) : Except Fault α :=
  (Codec.decode : Decoder α).run (Bytes.ofText s)

class Enumeration (α : Type) [DecidableEq α] where
  listed : List (String × α)
  /-- The value of every other name. -/
  unlisted : α

namespace Enumeration

variable {α : Type} [DecidableEq α] [Enumeration α]

def ofName (name : String) : α := ((listed (α := α)).lookup name).getD unlisted

def name (a : α) : String :=
  match (listed (α := α)).find? (·.2 = a) with
  | some (n, _) => n
  | none => "Unknown"

/-- An enumeration is written as the name of its value and read from a tag. -/
@[reducible] def codec : Codec α where
  decode l o := (Decoder.tag l o).map ofName
  encode a := .text (name a)

end Enumeration

end Redfish.Json
