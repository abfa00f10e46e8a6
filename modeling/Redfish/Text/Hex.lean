/-!
# Hexadecimal digits
-/

namespace Redfish.Hex

def value? (b : UInt8) : Option Nat :=
  if 0x30 ≤ b ∧ b ≤ 0x39 then some (b.toNat - 0x30)
  else if 0x41 ≤ b ∧ b ≤ 0x46 then some (b.toNat - 0x37)
  else if 0x61 ≤ b ∧ b ≤ 0x66 then some (b.toNat - 0x57)
  else none

def number? (digits : List UInt8) : Option Nat :=
  digits.foldlM (fun n b => (value? b).map (16 * n + ·)) 0

def lower (n : Nat) : String := String.ofList (Nat.toDigits 16 n)

def upperDigit (n : Nat) : Char := Char.ofNat (if n < 10 then 0x30 + n else 0x37 + n)

end Redfish.Hex
