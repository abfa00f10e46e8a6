import Redfish.Text.Hex
import Redfish.Text.Utf8
import Redfish.Yaml.Cursor

/-!
# Scalars

How the text of a scalar is read. Line ends inside a plain or quoted scalar are folded: a single one
becomes a blank, and of several the first is dropped. Each step of a reader consumes a character, so the
length of what follows is fuel enough.
-/

namespace Redfish.Yaml

structure Gap where
  broken : Bool
  blanks : List Char
  first : List Char
  more : List Char

namespace Gap

def none : Gap := ⟨false, [], [], []⟩

def fold (g : Gap) : List Char :=
  if !g.broken then g.blanks
  else if g.first = ['\n'] then if g.more.isEmpty then [' '] else g.more
  else g.first ++ g.more

/-- Reads blanks and line ends. Behind a line end no tab may stand before column `margin`. -/
def read (margin : Int) : (fuel : Nat) → Gap → Cursor → Option (Gap × Cursor)
  | 0, g, k => some (g, k)
  | fuel + 1, g, k =>
    match k.rest with
    | [] => some (g, k)
    | c :: _ =>
      if isBlank c then
        if g.broken then
          if c = '\t' && (k.column : Int) < margin then Option.none
          else read margin fuel g (k.skip 1)
        else read margin fuel { g with blanks := g.blanks ++ [c] } (k.skip 1)
      else if isBreak c then
        let (b, k) := k.readBreak
        if g.broken then read margin fuel { g with more := g.more ++ b } k
        else read margin fuel { g with broken := true, blanks := [], first := b } k
      else some (g, k)

end Gap

namespace Scalar

def isFlowIndicator (c : Char) : Bool := c = ',' || c = '[' || c = ']' || c = '{' || c = '}'

/-- Reads a plain scalar: its text in reverse, whether a line end follows it, and the position behind it.
`fresh` tells that a word may begin here, `text` is what was read before. -/
def plain (flow : Bool) (margin : Int) :
    (fuel : Nat) → (fresh : Bool) → (text : List Char) → Gap → Cursor →
      Option (List Char × Bool × Cursor)
  | 0, _, text, g, k => some (text, g.broken, k)
  | fuel + 1, fresh, text, g, k =>
    let done := some (text, g.broken, k)
    if fresh && (k.atDocumentMark || k.sees 0 (· = '#')) then done
    else
      match k.rest with
      | [] => done
      | c :: _ =>
        if isBlank c || isBreak c then do
          let (g, k) ← Gap.read margin fuel g k
          if !flow && (k.column : Int) < margin then some (text, g.broken, k)
          else plain flow margin fuel true text g k
        else if flow && c = ':' && k.sees 1 (fun d => isFlowIndicator d || d = '?') then none
        else if (c = ':' && k.seesGap 1) || (flow && isFlowIndicator c) then done
        else plain flow margin fuel false (c :: (g.fold.reverse ++ text)) .none (k.skip 1)

def codePoint? (count : Nat) (k : Cursor) : Option Char :=
  let digits := k.rest.take count
  if digits.length < count then none
  else do
    let n ← Hex.number? (digits.flatMap fun c => Bytes.ofText c.toString)
    if (0xD800 ≤ n ∧ n ≤ 0xDFFF) ∨ 0x10FFFF < n then none else some (Char.ofNat n)

def escaped? (c : Char) : Option Char :=
  [('0', '\x00'), ('a', '\x07'), ('b', '\x08'), ('t', '\t'), ('\t', '\t'), ('n', '\n'), ('v', '\x0B'),
   ('f', '\x0C'), ('r', '\r'), ('e', '\x1B'), (' ', ' '), ('"', '"'), ('/', '/'), ('\\', '\\'),
   ('N', '\u0085'), ('_', '\u00A0'), ('L', '\u2028'), ('P', '\u2029')].lookup c

def digitsOf? (c : Char) : Option Nat := [('x', 2), ('u', 4), ('U', 8)].lookup c

def readEscape (k : Cursor) : Option (Char × Cursor) :=
  match k.rest with
  | [] => none
  | c :: _ =>
    match digitsOf? c with
    | some count => (codePoint? count (k.skip 1)).map (·, k.skip (1 + count))
    | none => (escaped? c).map (·, k.skip 1)

def quoted (single : Bool) :
    (fuel : Nat) → (fresh : Bool) → (text : List Char) → Cursor → Option (List Char × Cursor)
  | 0, _, _, _ => none
  | fuel + 1, fresh, text, k =>
    if fresh && k.atDocumentMark then none
    else
      match k.rest with
      | [] => none
      | c :: cs =>
        if isBlank c || isBreak c then do
          let (g, k) ← Gap.read 0 fuel .none k
          quoted single fuel true (g.fold.reverse ++ text) k
        else if single && c = '\'' then
          if cs.head? = some '\'' then quoted single fuel false ('\'' :: text) (k.skip 2)
          else some (text.reverse, k.skip 1)
        else if !single && c = '"' then some (text.reverse, k.skip 1)
        else if !single && c = '\\' then
          if cs.head?.any isBreak then do
            let (g, k) ← Gap.read 0 fuel ⟨true, [], [], []⟩ (k.skip 1).skipBreak
            quoted single fuel true (g.fold.reverse ++ text) k
          else do
            let (d, k) ← readEscape (k.skip 1)
            quoted single fuel false (d :: text) k
        else quoted single fuel false (c :: text) (k.skip 1)

inductive Chomping
  | strip
  | clip
  | keep
  deriving DecidableEq, Repr

structure BlockHeader where
  chomping : Chomping
  /-- How far the lines are indented, if that is written. -/
  indent : Option Nat

def readChomping (k : Cursor) : Option Chomping × Cursor :=
  match k.rest with
  | '+' :: _ => (some .keep, k.skip 1)
  | '-' :: _ => (some .strip, k.skip 1)
  | _ => (none, k)

/-- Reads the digit in a header. Zero is none. -/
def readIndent (k : Cursor) : Option (Option Nat × Cursor) :=
  match k.rest with
  | c :: _ =>
    if c = '0' then none
    else if c.isDigit then some (some (c.toNat - '0'.toNat), k.skip 1)
    else some (none, k)
  | [] => some (none, k)

def readHeader (k : Cursor) : Option (BlockHeader × Cursor) := do
  let (sign, k) := readChomping k
  let (indent, k) ← readIndent k
  let (sign, k) := if sign.isNone && indent.isSome then readChomping k else (sign, k)
  let k := (k.skipWhile isBlank).skipComment
  if k.atLineEnd then some (⟨sign.getD .clip, indent⟩, k.skipBreak) else none

/-- Reads indentation and line ends up to a line that is not empty: the greatest indentation and the line
ends. No tab may stand in the indentation. -/
def blockBreaks (indent : Option Nat) :
    (fuel : Nat) → (greatest : Nat) → (breaks : List Char) → Cursor →
      Option (Nat × List Char × Cursor)
  | 0, greatest, breaks, k => some (greatest, breaks, k)
  | fuel + 1, greatest, breaks, k =>
    let spaces := (k.rest.takeWhile (· = ' ')).length
    let k := k.skip (match indent with
      | some n => min spaces (n - k.column)
      | none => spaces)
    let greatest := max greatest k.column
    if k.sees 0 (· = '\t') && indent.all (k.column < ·) then none
    else if k.sees 0 isBreak then
      let (b, k) := k.readBreak
      blockBreaks indent fuel greatest (breaks ++ b) k
    else some (greatest, breaks, k)

/-- Reads the lines of a block scalar. `lead` is the line end before the line here, `breaks` the empty
lines after that, and `blankLead` tells whether the line before began with a blank. -/
def blockLines (literal : Bool) (indent : Nat) :
    (fuel : Nat) → (text lead breaks : List Char) → (blankLead : Bool) → Cursor →
      Option (List Char × List Char × List Char × Cursor)
  | 0, text, lead, breaks, _, k => some (text, lead, breaks, k)
  | fuel + 1, text, lead, breaks, blankLead, k =>
    if k.column ≠ indent || k.rest.isEmpty then some (text, lead, breaks, k)
    else do
      let blank := k.sees 0 isBlank
      let folded :=
        if !literal && lead = ['\n'] && !blankLead && !blank then
          if breaks.isEmpty then [' '] else []
        else lead
      let (line, k) := k.takeWhile (!isBreak ·)
      let (lead, k) := k.readBreak
      let (_, more, k) ← blockBreaks (some indent) (fuel + 1) 0 [] k
      blockLines literal indent fuel (text ++ folded ++ breaks ++ line) lead more blank k

/-- Reads a block scalar behind its indicator. `margin` is the indentation of what it stands in. -/
def block (literal : Bool) (margin : Int) (k : Cursor) : Option (List Char × Cursor) := do
  let (header, k) ← readHeader k
  let base := if 0 ≤ margin then margin.toNat else 0
  let written := header.indent.map (base + ·)
  let (greatest, breaks, k) ← blockBreaks written (k.rest.length + 1) 0 [] k
  let indent := written.getD (max greatest (max (margin + 1).toNat 1))
  let (text, lead, breaks, k) ← blockLines literal indent (k.rest.length + 1) [] [] breaks false k
  let tail := match header.chomping with
    | .strip => []
    | .clip => lead
    | .keep => lead ++ breaks
  some (text ++ tail, k)

end Scalar

end Redfish.Yaml
