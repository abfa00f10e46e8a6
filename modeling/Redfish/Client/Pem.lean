import Redfish.Text.Base64

/-!
# Certificates in PEM

A file holds sections between a line that begins and a line that ends each of them. What stands between
is base64; sections of other kinds than certificates are skipped, but have to be in order.
-/

namespace Redfish.Pem

/-- Lines with the line ends behind them, each of which ends a line. -/
def lines : Bytes → List Bytes
  | [] => []
  | b :: bs =>
    if b = 0x0A || b = 0x0D then [b] :: lines bs
    else
      match lines bs with
      | [] => [[b]]
      | l :: ls => (b :: l) :: ls

def beginMark : Bytes := Bytes.ofText "-----BEGIN "

def endMark : Bytes := Bytes.ofText "-----END "

def rule : Bytes := Bytes.ofText "-----"

def after? (start line : Bytes) : Option Bytes :=
  if start.isPrefixOf line then some (line.drop start.length) else none

/-- The kind of the section that a line begins; `none` in it if the line does not end as it should. -/
def beginning? (line : Bytes) : Option (Option Bytes) :=
  (after? beginMark line).map fun _ =>
    let ending := line.reverse.takeWhile fun b => b = 0x2D || b = 0x0A || b = 0x0D || b = 0x20
    let dashes := ending.countP (· = 0x2D)
    let kept := ending.reverse.dropWhile (· ≠ 0x2D)
    if dashes = 5 then some ((line.drop 11).take (line.length - 11 - kept.length)) else none

def isEnd (kind line : Bytes) : Bool := ((after? (endMark ++ kind) line).bind (after? rule)).isSome

def knownKinds : List String :=
  ["CERTIFICATE", "PUBLIC KEY", "RSA PRIVATE KEY", "PRIVATE KEY", "EC PRIVATE KEY", "X509 CRL",
   "CERTIFICATE REQUEST", "ECHCONFIG"]

def isSpace (b : UInt8) : Bool := b = 0x20 || (0x09 ≤ b && b ≤ 0x0D)

def content? (body : Bytes) : Option Bytes :=
  let digits := body.filter (!isSpace ·)
  Base64.decodeLoose? (digits.map fun b => Char.ofNat b.toNat)

/-- The certificates in the lines. `open_` is the section that is open, with what it holds so far;
`none` is the answer to lines out of order. -/
def read : (open_ : Option (Bytes × Bytes)) → List Bytes → Option (List Bytes)
  | none, [] => some []
  | some _, [] => none
  | open_, l :: ls =>
    match beginning? l with
    | some none => none
    | some (some kind) => read (some (kind, (open_.map (·.2)).getD [])) ls
    | none =>
      match open_ with
      | none => read none ls
      | some (kind, body) =>
        if isEnd kind l then
          if knownKinds.any (Bytes.ofText · == kind) then
            match content? body, read none ls with
            | some der, some more =>
              some (if kind = Bytes.ofText "CERTIFICATE" then der :: more else more)
            | _, _ => none
          else read none ls
        else read (some (kind, body ++ l)) ls

def certificates? (bs : Bytes) : Option (List Bytes) := read none (lines bs)

end Redfish.Pem
