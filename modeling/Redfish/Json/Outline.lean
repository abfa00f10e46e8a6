import Redfish.Json.Numeral
import Redfish.Json.Text

/-!
# The outline of a JSON text

Every text has an outline: what it spells, from the left, up to the place where it stops being JSON.
The reader of a document walks the outline, so that whatever it meets first, a value of the wrong
kind or the place where the text breaks off, is what it reports.
-/

namespace Redfish.Json

inductive Word
  | null
  | yes
  | no
  deriving DecidableEq, Repr

/-- How the members of an object end: with the closing brace, or with a fault. A reader that expects a
single member whose name is a tag reports the end of the members in its own way. -/
inductive Close
  | closed
  | broken (fault tagFault : Fault)
  deriving DecidableEq, Repr

inductive Outline
  /-- A word, or the start of one that breaks off. -/
  | word (word : Word) (flaw : Option Fault)
  | number (numeral : Numeral)
  | text (text : Text)
  /-- The items, and what stands in place of the closing bracket if it is missing. -/
  | array (items : List Outline) (flaw : Option Fault)
  | object (members : List (Text × Outline)) (close : Close)
  | missing (fault : Fault)

namespace Outline

def isBlank (b : UInt8) : Bool := b = 0x20 || b = 0x09 || b = 0x0A || b = 0x0D

def skipBlanks (bs : Bytes) : Bytes := bs.dropWhile isBlank

def spell : (letters : Bytes) → Bytes → Option Fault × Option Bytes
  | [], bs => (none, some bs)
  | _ :: _, [] => (some .ended, none)
  | l :: letters, b :: bs => if l = b then spell letters bs else (some .malformed, none)

def readWord (w : Word) (letters : Bytes) (bs : Bytes) : Outline × Option Bytes :=
  let (flaw, rest) := spell letters bs
  (.word w flaw, rest)

mutual

/-- Reads a value; also gives the text after it, unless the text breaks off. Each call but the first of
an array or object consumes a byte, so three times the length of the text is fuel enough. -/
def readValue : (fuel : Nat) → Bytes → Outline × Option Bytes
  | 0, _ => (.missing .ended, none)
  | fuel + 1, bs =>
    match skipBlanks bs with
    | [] => (.missing .ended, none)
    | b :: rest =>
      if b = 0x22 then
        let (t, rest) := Text.read rest
        (.text t, rest)
      else if b = 0x7B then
        let (members, close, rest) := readMembers fuel true rest
        (.object members close, rest)
      else if b = 0x5B then
        let (items, flaw, rest) := readItems fuel true rest
        (.array items flaw, rest)
      else if b = 0x6E then readWord .null [0x75, 0x6C, 0x6C] rest
      else if b = 0x74 then readWord .yes [0x72, 0x75, 0x65] rest
      else if b = 0x66 then readWord .no [0x61, 0x6C, 0x73, 0x65] rest
      else if b = 0x2D || Numeral.isDigit b then
        let (n, rest) := Numeral.read (b :: rest)
        (.number n, rest)
      else (.missing .malformed, none)

def readItems : (fuel : Nat) → (first : Bool) → Bytes → List Outline × Option Fault × Option Bytes
  | 0, _, _ => ([], some .ended, none)
  | fuel + 1, first, bs =>
    match skipBlanks bs with
    | [] => ([], some .ended, none)
    | b :: rest =>
      if b = 0x5D then ([], none, some rest)
      else if first then readItem fuel (b :: rest)
      else if b = 0x2C then
        if (skipBlanks rest).head? = some 0x5D then ([.missing .malformed], some .malformed, none)
        else readItem fuel rest
      else ([], some .malformed, none)

def readItem : (fuel : Nat) → Bytes → List Outline × Option Fault × Option Bytes
  | 0, _ => ([], some .ended, none)
  | fuel + 1, bs =>
    match readValue fuel bs with
    | (o, none) => ([o], some .malformed, none)
    | (o, some rest) =>
      let (items, flaw, rest) := readItems fuel false rest
      (o :: items, flaw, rest)

def readMembers : (fuel : Nat) → (first : Bool) → Bytes →
    List (Text × Outline) × Close × Option Bytes
  | 0, _, _ => ([], .broken .ended .ended, none)
  | fuel + 1, first, bs =>
    match skipBlanks bs with
    | [] => ([], .broken .ended .ended, none)
    | b :: rest =>
      if b = 0x7D then ([], .closed, some rest)
      else if first then
        if b = 0x22 then readMember fuel rest
        else ([], .broken .malformed .malformed, none)
      else if b = 0x2C then
        match skipBlanks rest with
        | [] => ([], .broken .ended .malformed, none)
        | b :: rest =>
          if b = 0x22 then readMember fuel rest
          else ([], .broken .malformed .malformed, none)
      else ([], .broken .malformed .malformed, none)

/-- Reads a member, whose opening quote has been passed, and those after it. -/
def readMember : (fuel : Nat) → Bytes → List (Text × Outline) × Close × Option Bytes
  | 0, _ => ([], .broken .ended .ended, none)
  | fuel + 1, bs =>
    match Text.read bs with
    | (name, none) => ([(name, .missing .malformed)], .broken .malformed .malformed, none)
    | (name, some rest) =>
      match skipBlanks rest with
      | [] => ([(name, .missing .ended)], .broken .ended .ended, none)
      | b :: rest =>
        if b = 0x3A then
          match readValue fuel rest with
          | (o, none) => ([(name, o)], .broken .malformed .malformed, none)
          | (o, some rest) =>
            let (members, close, rest) := readMembers fuel false rest
            ((name, o) :: members, close, rest)
        else ([(name, .missing .malformed)], .broken .malformed .malformed, none)

end

/-- The outline of a text; also what follows its value, unless the text breaks off. -/
def read (bs : Bytes) : Outline × Option Bytes := readValue (3 * bs.length + 3) bs

mutual

/-- What is wrong with a value that is only skipped: its grammar, nothing else. -/
def flaw? : Outline → Option Fault
  | .word _ flaw => flaw
  | .number n => n.flaw
  | .text t => t.flaw
  | .array items flaw => itemsFlaw? items <|> flaw
  | .object members close => membersFlaw? members <|> match close with
    | .closed => none
    | .broken fault _ => some fault
  | .missing fault => some fault

def itemsFlaw? : List Outline → Option Fault
  | [] => none
  | o :: items => o.flaw? <|> itemsFlaw? items

def membersFlaw? : List (Text × Outline) → Option Fault
  | [] => none
  | (name, o) :: members => name.flaw <|> o.flaw? <|> membersFlaw? members

end

/-- What is reported where a value of another kind is expected. A word, number or text is read before
it is found to be of the wrong kind. -/
def mismatch : Outline → Fault
  | .word _ flaw => flaw.getD (.data .invalidType)
  | .number n => match n.value with
    | .ok _ => .data .invalidType
    | .error fault => fault
  | .text t => match t.content with
    | .ok _ => .data .invalidType
    | .error fault => fault
  | .array _ _ => .data .invalidType
  | .object _ _ => .data .invalidType
  | .missing fault => fault

end Outline

end Redfish.Json
