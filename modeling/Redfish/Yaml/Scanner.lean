import Redfish.Yaml.Scalar
import Redfish.Yaml.Tag

/-!
# From a YAML text to its tokens

A token may turn out to be a key only when the colon behind it is seen. Therefore the place where a key
may have begun is kept, one for each level of brackets, and the tokens that mark the key are put in
there later. Outside brackets the indentation opens and closes lists and mappings.
-/

namespace Redfish.Yaml

structure PossibleKey where
  /-- Whether nothing but a key can stand there. -/
  required : Bool
  offset : Nat
  line : Nat
  column : Nat
  /-- The number of tokens before it. -/
  place : Nat
  deriving Repr

structure Scanner where
  cursor : Cursor
  /-- The tokens read so far, in reverse. -/
  tokens : List Token
  /-- The column of the innermost list or mapping outside brackets, below zero if there is none. -/
  indent : Int
  outer : List Int
  /-- The keys that may have begun inside brackets, innermost first. -/
  flowKeys : List (Option PossibleKey)
  blockKey : Option PossibleKey
  keyAllowed : Bool

namespace Scanner

def start (text : List Char) : Scanner := ⟨.start text, [], -1, [], [], none, true⟩

def inFlow (s : Scanner) : Bool := !s.flowKeys.isEmpty

def column (s : Scanner) : Int := s.cursor.column

def emit (t : Token) (s : Scanner) : Scanner := { s with tokens := t :: s.tokens }

def emitAt (place : Nat) (t : Token) (s : Scanner) : Scanner :=
  let later := s.tokens.length - place
  { s with tokens := s.tokens.take later ++ t :: s.tokens.drop later }

def allowKey (allowed : Bool) (s : Scanner) : Scanner := { s with keyAllowed := allowed }

def skip (n : Nat) (s : Scanner) : Scanner := { s with cursor := s.cursor.skip n }

def possibleKey (s : Scanner) : Option PossibleKey :=
  match s.flowKeys with
  | k :: _ => k
  | [] => s.blockKey

def setPossibleKey (k : Option PossibleKey) (s : Scanner) : Scanner :=
  match s.flowKeys with
  | _ :: ks => { s with flowKeys := k :: ks }
  | [] => { s with blockKey := k }

/-- Gives up the key that may have begun, unless it has to be one. -/
def dropKey (s : Scanner) : Option Scanner :=
  if s.possibleKey.any (·.required) then none else some (s.setPossibleKey none)

def saveKey (s : Scanner) : Option Scanner :=
  if s.keyAllowed then do
    let required := !s.inFlow && s.indent = s.column
    let s ← s.dropKey
    return s.setPossibleKey
      (some ⟨required, s.cursor.offset, s.cursor.line, s.cursor.column, s.tokens.length⟩)
  else some s

/-- Opens a list or mapping at a column, outside brackets and if none is open there. -/
def openBlock (column : Int) (place : Nat) (t : Token) (s : Scanner) : Scanner :=
  if !s.inFlow && s.indent < column then
    { s with indent := column, outer := s.indent :: s.outer }.emitAt place t
  else s

def closeBlocks (column : Int) : (outer : List Int) → Scanner → Scanner
  | [], s => s
  | indent :: outer, s =>
    if column < s.indent then
      closeBlocks column outer ({ s with indent, outer }.emit .blockEnd)
    else s

def unroll (column : Int) (s : Scanner) : Scanner :=
  if s.inFlow then s else closeBlocks column s.outer s

/-- Goes on to the next token, over a byte-order mark at the start of any line. Tabs may not stand where a
key may begin, outside brackets. -/
def skipToToken : (fuel : Nat) → Scanner → Scanner
  | 0, s => s
  | fuel + 1, s =>
    let k := s.cursor
    let k := if k.column = 0 && k.sees 0 (· = '\uFEFF') then k.skip 1 else k
    let tabs := s.inFlow || !s.keyAllowed
    let k := (k.skipWhile fun c => c = ' ' || (tabs && c = '\t')).skipComment
    if k.sees 0 isBreak then
      skipToToken fuel { s with cursor := k.skipBreak, keyAllowed := s.keyAllowed || !s.inFlow }
    else { s with cursor := k }

def documentMark (t : Token) (s : Scanner) : Option Scanner := do
  let s ← (s.unroll (-1)).dropKey
  return ((s.allowKey false).emit t).skip 3

def directive (s : Scanner) : Option Scanner := do
  let s ← (s.unroll (-1)).dropKey
  let (t, k) ← Tag.readDirective (s.cursor.skip 1)
  return { (s.allowKey false).emit t with cursor := k }

def openBracket (t : Token) (s : Scanner) : Option Scanner := do
  let s ← s.saveKey
  return (({ s with flowKeys := none :: s.flowKeys }.allowKey true).emit t).skip 1

def closeBracket (t : Token) (s : Scanner) : Option Scanner := do
  let s ← s.dropKey
  return (({ s with flowKeys := s.flowKeys.drop 1 }.allowKey false).emit t).skip 1

def comma (s : Scanner) : Option Scanner := do
  let s ← s.dropKey
  return ((s.allowKey true).emit .comma).skip 1

def item (s : Scanner) : Option Scanner :=
  if !s.inFlow && !s.keyAllowed then none
  else do
    let s ← (s.openBlock s.column s.tokens.length .blockSequence).dropKey
    return ((s.allowKey true).emit .item).skip 1

def key (s : Scanner) : Option Scanner :=
  if !s.inFlow && !s.keyAllowed then none
  else do
    let s ← (s.openBlock s.column s.tokens.length .blockMapping).dropKey
    return ((s.allowKey !s.inFlow).emit .key).skip 1

/-- Whether the key that may have begun can be one here: it has to be on the line, and at most 1024 bytes
before. `none` means that it has to be one but cannot. -/
def checkKey (s : Scanner) (k : PossibleKey) : Option Bool :=
  if k.line < s.cursor.line || k.offset + 1024 < s.cursor.offset then
    if k.required then none else some false
  else some true

def value (s : Scanner) : Option Scanner := do
  let simple ← match s.possibleKey with
    | some k => do
      if ← s.checkKey k then some (some k) else some none
    | none => some none
  let s := s.setPossibleKey none
  match simple with
  | some k =>
    let s := (s.emitAt k.place .key).openBlock k.column k.place .blockMapping
    return ((s.allowKey false).emit .value).skip 1
  | none =>
    if !s.inFlow && !s.keyAllowed then none
    else
      let s := s.openBlock s.column s.tokens.length .blockMapping
      return ((s.allowKey !s.inFlow).emit .value).skip 1

def anchor (token : List Char → Token) (s : Scanner) : Option Scanner := do
  let s ← s.saveKey
  let (name, k) ← Tag.readAnchor (s.cursor.skip 1)
  return { (s.allowKey false).emit (token name) with cursor := k }

def tag (s : Scanner) : Option Scanner := do
  let s ← s.saveKey
  let (t, k) ← Tag.read s.inFlow (s.cursor.skip 1)
  return { (s.allowKey false).emit t with cursor := k }

def blockScalar (literal : Bool) (s : Scanner) : Option Scanner := do
  let s ← s.dropKey
  let (text, k) ← Scalar.block literal s.indent (s.cursor.skip 1)
  let style := if literal then Style.literal else Style.folded
  return { (s.allowKey true).emit (.scalar style text) with cursor := k }

def quotedScalar (single : Bool) (s : Scanner) : Option Scanner := do
  let s ← s.saveKey
  let k := s.cursor.skip 1
  let (text, k) ← Scalar.quoted single (k.rest.length + 1) true [] k
  return { (s.allowKey false).emit (.scalar .quoted text) with cursor := k }

def plainScalar (s : Scanner) : Option Scanner := do
  let s ← s.saveKey
  let k := s.cursor
  let (text, broken, k) ←
    Scalar.plain s.inFlow (s.indent + 1) (k.rest.length + 1) true [] .none k
  return { (s.allowKey broken).emit (.scalar .plain text.reverse) with cursor := k }

/-- Characters that begin no plain scalar, the first three unless something follows them. -/
def isIndicator (c : Char) : Bool :=
  ['-', '?', ':', ',', '[', ']', '{', '}', '#', '&', '*', '!', '|', '>', '\'', '"', '%', '@',
    '\x60'].contains c

def atPlainScalar (s : Scanner) (c : Char) : Bool :=
  let k := s.cursor
  !(isBlank c || isIndicator c) ||
    (c = '-' && !k.sees 1 isBlank) ||
    (!s.inFlow && (c = '?' || c = ':') && !k.seesGap 1)

def readToken (s : Scanner) (c : Char) : Option Scanner :=
  let k := s.cursor
  if k.column = 0 && c = '%' then s.directive
  else if k.atDocumentMark then s.documentMark (if c = '-' then .documentStart else .documentEnd)
  else if c = '[' then s.openBracket .openSequence
  else if c = '{' then s.openBracket .openMapping
  else if c = ']' then s.closeBracket .closeSequence
  else if c = '}' then s.closeBracket .closeMapping
  else if c = ',' then s.comma
  else if c = '-' && k.seesGap 1 then s.item
  else if c = '?' && (s.inFlow || k.seesGap 1) then s.key
  else if c = ':' && (s.inFlow || k.seesGap 1) then s.value
  else if c = '*' then s.anchor .reference
  else if c = '&' then s.anchor .anchor
  else if c = '!' then s.tag
  else if c = '|' && !s.inFlow then s.blockScalar true
  else if c = '>' && !s.inFlow then s.blockScalar false
  else if c = '\'' then s.quotedScalar true
  else if c = '"' then s.quotedScalar false
  else if s.atPlainScalar c then s.plainScalar
  else none

/-- Reads the tokens up to the end of the text. Each token but those put in takes a character. -/
def run : (fuel : Nat) → Scanner → Option Scanner
  | 0, _ => none
  | fuel + 1, s =>
    let s := s.skipToToken (fuel + 1)
    match s.cursor.rest with
    | [] => (s.unroll (-1)).dropKey
    | c :: _ =>
      match (s.unroll s.column).readToken c with
      | none => none
      | some s => run fuel s

end Scanner

def tokens? (text : String) : Option (List Token) :=
  let cs := text.toList
  if cs.all isPrintable then
    ((Scanner.start cs).run (cs.length + 1)).map (·.tokens.reverse)
  else none

end Redfish.Yaml
