import Redfish.Json.Fault
import Redfish.Json.Value
import Redfish.Text.Utf8

/-!
# Numbers in a JSON text

The digits of a number are taken into a 64-bit significand for as long as they fit; the power of ten
that remains is applied to the significand in one multiplication or division. A number with neither
fraction nor exponent that fits is an integer; all others are reals, `-0` among them. A number that
is only skipped has its grammar checked and nothing else, so `1e999` can be skipped but not read.
-/

namespace Redfish.Json

structure Numeral where
  /-- What it reads as. -/
  value : Except Fault Number
  /-- What is wrong with it where it is only skipped. -/
  flaw : Option Fault

namespace Numeral

def isDigit (b : UInt8) : Bool := 0x30 ≤ b && b ≤ 0x39

def digits (bs : Bytes) : List Nat × Bytes :=
  let (ds, rest) := bs.span isDigit
  (ds.map (·.toNat - 0x30), rest)

/-- Appends digits to a significand while it stays below `2 ^ 64`; also says how many it took. -/
def absorb : (significand : Nat) → List Nat → Nat × Nat
  | s, [] => (s, 0)
  | s, d :: ds =>
    if 10 * s + d < UInt64.size then
      let (total, taken) := absorb (10 * s + d) ds
      (total, taken + 1)
    else (s, 0)

def tenTo (n : Nat) : Float := Float.ofScientific 1 false n

/-- Divides by a power of ten, in steps that do not overflow. -/
def divide (x : Float) (exponent : Nat) : Float :=
  if exponent ≤ 308 then x / tenTo exponent
  else if x == 0 then x
  else divide (x / tenTo 308) (exponent - 308)
termination_by exponent

/-- The real that a significand and a power of ten make; beyond the largest real there is none. -/
def scale (significand : Nat) (exponent : Int) : Except Fault Float :=
  let x := significand.toUInt64.toFloat
  if exponent < 0 then .ok (divide x (-exponent).toNat)
  else if exponent ≤ 308 then
    let y := x * tenTo exponent.toNat
    if y.isInf then .error .malformed else .ok y
  else if x == 0 then .ok x
  else .error .malformed

def assemble (negative : Bool) (whole fraction : List Nat) (exponent : Option Int) :
    Except Fault Number := do
  let (s, taken) := absorb 0 whole
  let dropped := whole.length - taken
  if fraction = [] ∧ exponent = none ∧ dropped = 0 ∧ (negative → 0 < s ∧ s ≤ UInt64.size / 2) then
    return .integer (if negative then -s else s)
  let (s, shifted) := absorb s fraction
  let x ← scale s ((dropped : Int) - shifted + exponent.getD 0)
  return .real (if negative then -x else x)

/-- Where the grammar of numbers is broken: too early an end counts as broken grammar when the number
is only skipped. -/
def broken (bs : Bytes) : Numeral × Option Bytes :=
  (⟨.error (if bs = [] then .ended else .malformed), some .malformed⟩, none)

def readExponent (negative : Bool) (whole fraction : List Nat) (bs : Bytes) :
    Numeral × Option Bytes :=
  match bs with
  | [] => (⟨assemble negative whole fraction none, none⟩, some [])
  | b :: rest =>
    if b = 0x65 ∨ b = 0x45 then
      let (down, rest) := match rest with
        | [] => (false, [])
        | s :: tail => if s = 0x2D then (true, tail) else if s = 0x2B then (false, tail)
          else (false, rest)
      let (ds, rest) := digits rest
      if ds = [] then broken rest
      else
        let e : Int := (ds.foldl (10 * · + ·) 0 : Nat)
        (⟨assemble negative whole fraction (some (if down then -e else e)), none⟩, some rest)
    else (⟨assemble negative whole fraction none, none⟩, some bs)

def readFraction (negative : Bool) (whole : List Nat) (bs : Bytes) : Numeral × Option Bytes :=
  match bs with
  | [] => readExponent negative whole [] []
  | b :: rest =>
    if b = 0x2E then
      let (ds, rest) := digits rest
      if ds = [] then broken rest else readExponent negative whole ds rest
    else readExponent negative whole [] bs

/-- Reads a number, without its sign. No digit may follow a leading zero. -/
def readMagnitude (negative : Bool) (bs : Bytes) : Numeral × Option Bytes :=
  let (ds, rest) := digits bs
  match ds with
  | [] => broken bs
  | 0 :: _ :: _ => (⟨.error .malformed, some .malformed⟩, none)
  | _ => readFraction negative ds rest

/-- Reads the number at the start of a text; also gives the text after it, unless it is broken. -/
def read (bs : Bytes) : Numeral × Option Bytes :=
  match bs with
  | [] => broken []
  | b :: rest => if b = 0x2D then readMagnitude true rest else readMagnitude false bs

end Numeral

end Redfish.Json
