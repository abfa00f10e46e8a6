import Redfish.Text.Hex
import Redfish.Text.Utf8

/-!
# Percent-encoding

Each part of a URL has a set of bytes that stand there only in encoded form. Control characters and
bytes of other characters than ASCII are in every set.
-/

namespace Redfish.Url

/-- Bytes that are encoded everywhere. -/
def isControl (b : UInt8) : Bool := b < 0x20 || 0x7F ≤ b

def encodedInPath (b : UInt8) : Bool :=
  isControl b || [0x20, 0x22, 0x23, 0x3C, 0x3E, 0x3F, 0x60, 0x7B, 0x7D].contains b

def encodedInQuery (b : UInt8) : Bool :=
  isControl b || [0x20, 0x22, 0x23, 0x27, 0x3C, 0x3E].contains b

def percentEncodeByte (b : UInt8) : List Char :=
  ['%', Hex.upperDigit (b.toNat / 16), Hex.upperDigit (b.toNat % 16)]

/-- Encodes the bytes of a text that are in a set; the others stand for ASCII characters. -/
def percentEncode (encoded : UInt8 → Bool) (cs : List Char) : List Char :=
  (Bytes.ofText (String.ofList cs)).flatMap fun b =>
    if encoded b then percentEncodeByte b else [Char.ofNat b.toNat]

/-- Decodes what is encoded; a percent sign that begins no encoded byte stays. -/
def percentDecode : Bytes → Bytes
  | 0x25 :: a :: b :: rest =>
    match Hex.number? [a, b] with
    | some n => UInt8.ofNat n :: percentDecode rest
    | none => 0x25 :: percentDecode (a :: b :: rest)
  | b :: rest => b :: percentDecode rest
  | [] => []
termination_by bs => bs.length

end Redfish.Url
