import Redfish.Decimal.Shortest

/-!
# How a decimal is laid out

Positional notation between two powers of ten, scientific notation outside them.
-/

namespace Redfish.Decimal

/-- The decisions a format makes on the layout of a number. -/
structure Notation where
  leastPositional : Int
  greatestPositional : Int
  /-- What follows a positional number without a fraction. -/
  wholeMark : String
  /-- What stands before a positive exponent. -/
  plus : String

namespace Notation

def zeros (n : Nat) : String := String.ofList (List.replicate n '0')

def leadExponent (s : Scaled) : Int := s.exponent + (toString s.digits).length - 1

def layout (n : Notation) (s : Scaled) : String :=
  let digits := (toString s.digits).toList
  let lead := leadExponent s
  if n.leastPositional ≤ lead ∧ lead ≤ n.greatestPositional then
    if 0 ≤ s.exponent then String.ofList digits ++ zeros s.exponent.toNat ++ n.wholeMark
    else if 0 ≤ lead then
      String.ofList (digits.take (lead.toNat + 1)) ++ "." ++
        String.ofList (digits.drop (lead.toNat + 1))
    else "0." ++ zeros (-lead - 1).toNat ++ String.ofList digits
  else
    let fraction := digits.drop 1
    String.ofList (digits.take 1) ++ (if fraction = [] then "" else "." ++ String.ofList fraction) ++
      "e" ++ (if 0 ≤ lead then n.plus ++ toString lead.toNat else "-" ++ toString (-lead).toNat)

def write (n : Notation) (x : Float) : String :=
  let negative : Bool := UInt64.size / 2 ≤ x.toBits.toNat
  let b := Binary.ofFloat x
  let magnitude := if b.significand = 0 then "0" ++ n.wholeMark else n.layout b.shortest
  if negative then "-" ++ magnitude else magnitude

end Notation

end Redfish.Decimal
