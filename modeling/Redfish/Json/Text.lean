import Redfish.Json.Fault
import Redfish.Text.Hex
import Redfish.Text.Utf8

/-!
# Texts in a JSON text

Escapes are undone while the text is scanned, and the whole has to be UTF-8 where it is read. A text
that is only skipped may hold any bytes but control characters, and surrogate escapes in any order;
one that is read needs every surrogate in a pair.
-/

namespace Redfish.Json

structure Text where
  /-- What it reads as. -/
  content : Except Fault String
  /-- What is wrong with it where it is only skipped. -/
  flaw : Option Fault

namespace Text

def unescape? (b : UInt8) : Option UInt8 :=
  if b = 0x22 ∨ b = 0x5C ∨ b = 0x2F then some b
  else if b = 0x62 then some 0x08
  else if b = 0x66 then some 0x0C
  else if b = 0x6E then some 0x0A
  else if b = 0x72 then some 0x0D
  else if b = 0x74 then some 0x09
  else none

def isLead (n : Nat) : Bool := 0xD800 ≤ n && n ≤ 0xDBFF

def isTrail (n : Nat) : Bool := 0xDC00 ≤ n && n ≤ 0xDFFF

/-- The text breaks off. A surrogate without its pair further left was met first. -/
def broken (spoiled : Bool) (fault : Fault) : Text × Option Bytes :=
  (⟨.error (if spoiled then .malformed else fault), some fault⟩, none)

/-- The closing quote is reached, with the bytes of the text in reverse. -/
def closed (reversed : Bytes) (spoiled : Bool) : Text :=
  if spoiled then ⟨.error .malformed, none⟩
  else match Bytes.text? reversed.reverse with
    | some s => ⟨.ok s, none⟩
    | none => ⟨.error .malformed, none⟩

/-- Scans to the closing quote. `reversed` holds the bytes so far, `lead` a leading surrogate that
waits for its pair, and `spoiled` says that a surrogate has been left without one. -/
def scan (reversed : Bytes) (lead : Option Nat) (spoiled : Bool) : Bytes → Text × Option Bytes
  | [] => broken spoiled .ended
  | b :: rest =>
    if b = 0x22 then (closed reversed (spoiled || lead.isSome), some rest)
    else if b = 0x5C then
      match rest with
      | [] => broken spoiled .ended
      | e :: rest =>
        if e = 0x75 then
          match rest with
          | h₁ :: h₂ :: h₃ :: h₄ :: rest =>
            match Hex.number? [h₁, h₂, h₃, h₄], lead with
            | none, _ => broken spoiled .malformed
            | some n, some m =>
              if isTrail n then
                let c := Char.ofNat (0x10000 + (m - 0xD800) * 0x400 + (n - 0xDC00))
                scan ((String.utf8EncodeChar c).reverse ++ reversed) none spoiled rest
              else scan reversed none true rest
            | some n, none =>
              if isLead n then scan reversed (some n) spoiled rest
              else if isTrail n then scan reversed none true rest
              else scan ((String.utf8EncodeChar (Char.ofNat n)).reverse ++ reversed) none spoiled rest
          | _ => broken spoiled .ended
        else match unescape? e with
          | none => broken spoiled .malformed
          | some c => scan (c :: reversed) none (spoiled || lead.isSome) rest
    else if b < 0x20 then broken spoiled .malformed
    else scan (b :: reversed) none (spoiled || lead.isSome) rest

def read (bs : Bytes) : Text × Option Bytes := scan [] none false bs

end Text

end Redfish.Json
