import Redfish.Text.Hex
import Redfish.Yaml.Cursor
import Redfish.Yaml.Token

/-!
# Names, tags and directives

What is read here stands on one line.
-/

namespace Redfish.Yaml.Tag

/-- Characters of a tag; those of lists only between angle brackets and in directives. -/
def isTagChar (wide : Bool) (c : Char) : Bool :=
  isWordChar c ||
    [';', '/', '?', ':', '@', '&', '=', '+', '$', '.', '%', '!', '~', '*', '\'', '(', ')'].contains c ||
    (wide && [',', '[', ']'].contains c)

def sequenceLength? (b : UInt8) : Option Nat :=
  if b < 0x80 then some 1
  else if 0xC0 ≤ b ∧ b < 0xE0 then some 2
  else if 0xE0 ≤ b ∧ b < 0xF0 then some 3
  else if 0xF0 ≤ b ∧ b < 0xF8 then some 4
  else none

/-- The bytes of a tag. Encoded bytes make up whole sequences: `due` is how many more the sequence has. -/
def decode : (due : Nat) → List Char → Option Bytes
  | 0, [] => some []
  | _ + 1, [] => none
  | due, '%' :: a :: b :: cs => do
    let n ← Hex.number? (Bytes.ofText (String.ofList [a, b]))
    let byte := UInt8.ofNat n
    let due ← match due with
      | 0 => (sequenceLength? byte).map (· - 1)
      | due + 1 => if 0x80 ≤ byte ∧ byte < 0xC0 then some due else none
    return byte :: (← decode due cs)
  | 0, c :: cs =>
    if c = '%' then none else do
      return Bytes.ofText c.toString ++ (← decode 0 cs)
  | _ + 1, _ :: _ => none

/-- Reads characters of a tag; there is at least one unless something stands before them. -/
def readSuffix (wide mayBeEmpty : Bool) (k : Cursor) : Option (Bytes × Cursor) :=
  let (cs, k) := k.takeWhile (isTagChar wide)
  if cs.isEmpty && !mayBeEmpty then none else (decode 0 cs).map (·, k)

/-- Reads a handle behind its exclamation mark: its name, and whether it is closed by another. -/
def readHandle (k : Cursor) : List Char × Bool × Cursor :=
  let (name, k) := k.takeWhile isWordChar
  if k.sees 0 (· = '!') then (name, true, k.skip 1) else (name, false, k)

/-- Reads a tag behind its exclamation mark. A tag without a handle has the handle of one mark, and a
lone mark is a tag of its own. -/
def read (flow : Bool) (k : Cursor) : Option (Token × Cursor) := do
  let (tag, k) ←
    if k.sees 0 (· = '<') then do
      let (suffix, k) ← readSuffix true false (k.skip 1)
      if k.sees 0 (· = '>') then some (Token.tag [] suffix, k.skip 1) else none
    else do
      let (name, closed, k) := readHandle k
      if closed then do
        let (suffix, k) ← readSuffix false false k
        some (Token.tag ('!' :: name ++ ['!']) suffix, k)
      else do
        let (suffix, k) ← readSuffix false true k
        let suffix := Bytes.ofText (String.ofList name) ++ suffix
        if suffix.isEmpty then some (Token.tag [] (Bytes.ofText "!"), k)
        else some (Token.tag ['!'] suffix, k)
  if k.seesGap 0 || (flow && k.sees 0 (· = ',')) then some (tag, k) else none

def readAnchor (k : Cursor) : Option (List Char × Cursor) :=
  let (name, k) := k.takeWhile isWordChar
  let ends := k.seesGap 0 || k.sees 0 (['?', ':', ',', ']', '}', '%', '@', '\x60'].contains ·)
  if name.isEmpty || !ends then none else some (name, k)

def readNumber (k : Cursor) : Option (Nat × Cursor) :=
  let (digits, k) := k.takeWhile Char.isDigit
  if digits.isEmpty || 9 < digits.length then none
  else some (digits.foldl (fun n c => 10 * n + (c.toNat - '0'.toNat)) 0, k)

def readVersion (k : Cursor) : Option (Token × Cursor) := do
  let (major, k) ← readNumber (k.skipWhile isBlank)
  if k.sees 0 (· = '.') then
    let (minor, k) ← readNumber (k.skip 1)
    some (.version major minor, k)
  else none

def readHandleMeaning (k : Cursor) : Option (Token × Cursor) := do
  let k := k.skipWhile isBlank
  if !k.sees 0 (· = '!') then none
  else
    let (name, closed, k) := readHandle (k.skip 1)
    if !closed && !name.isEmpty then none
    else
      let handle := if closed then '!' :: name ++ ['!'] else ['!']
      if !k.sees 0 isBlank then none
      else
        let (meaning, k) ← readSuffix true false (k.skipWhile isBlank)
        if k.seesGap 0 then some (.handle handle meaning, k) else none

def readDirective (k : Cursor) : Option (Token × Cursor) := do
  let (name, k) := k.takeWhile isWordChar
  if name.isEmpty || !k.seesGap 0 then none
  else
    let (token, k) ←
      if name = "YAML".toList then readVersion k
      else if name = "TAG".toList then readHandleMeaning k
      else none
    let k := (k.skipWhile isBlank).skipComment
    if k.atLineEnd then some (token, k.skipBreak) else none

end Redfish.Yaml.Tag
