import Redfish.Decimal.Notation
import Redfish.Json.Value
import Redfish.Text.Utf8

/-!
# Writing JSON

The written form is compact: no blanks, and escapes only where they are needed. Escaping looks at
bytes, since every byte that needs it stands for a character of its own.
-/

namespace Redfish.Json

/-- Reals are positional from `10 ^ -5` up to `10 ^ 16` and always show that they are reals. -/
def realNotation : Decimal.Notation := ⟨-5, 15, ".0", "+"⟩

def hexDigit (n : Nat) : UInt8 := UInt8.ofNat (if n < 10 then 0x30 + n else 0x57 + n)

def escapeByte (b : UInt8) : Bytes :=
  if b = 0x22 then [0x5C, 0x22]
  else if b = 0x5C then [0x5C, 0x5C]
  else if b = 0x08 then [0x5C, 0x62]
  else if b = 0x09 then [0x5C, 0x74]
  else if b = 0x0A then [0x5C, 0x6E]
  else if b = 0x0C then [0x5C, 0x66]
  else if b = 0x0D then [0x5C, 0x72]
  else if b < 0x20 then
    [0x5C, 0x75, 0x30, 0x30, hexDigit (b.toNat / 16), hexDigit (b.toNat % 16)]
  else [b]

def renderText (s : String) : Bytes := 0x22 :: (Bytes.ofText s).flatMap escapeByte ++ [0x22]

def Number.render : Number → Bytes
  | .integer i => Bytes.ofText (toString i)
  | .real x => Bytes.ofText (realNotation.write x)

mutual

def Value.render : Value → Bytes
  | .null => Bytes.ofText "null"
  | .bool true => Bytes.ofText "true"
  | .bool false => Bytes.ofText "false"
  | .number n => n.render
  | .text s => renderText s
  | .array items => 0x5B :: renderItems items ++ [0x5D]
  | .object members => 0x7B :: renderMembers members ++ [0x7D]

def renderItems : List Value → Bytes
  | [] => []
  | [v] => v.render
  | v :: w :: items => v.render ++ 0x2C :: renderItems (w :: items)

def renderMembers : List (String × Value) → Bytes
  | [] => []
  | [(name, v)] => renderText name ++ 0x3A :: v.render
  | (name, v) :: m :: members =>
    renderText name ++ 0x3A :: v.render ++ 0x2C :: renderMembers (m :: members)

end

def Value.toText (v : Value) : String := v.render.text

end Redfish.Json
