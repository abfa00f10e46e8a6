/-!
# Positions in a YAML text
-/

namespace Redfish.Yaml

def isBlank (c : Char) : Bool := c = ' ' || c = '\t'

def isBreak (c : Char) : Bool :=
  c = '\n' || c = '\r' || c = '\u0085' || c = '\u2028' || c = '\u2029'

def isWordChar (c : Char) : Bool := c.isAlphanum || c = '_' || c = '-'

def isPrintable (c : Char) : Bool :=
  c = '\t' || c = '\n' || c = '\r' || (' ' ≤ c && c ≤ '~') || c = '\u0085' ||
    ('\u00A0' ≤ c && c ≤ '\uFFFD') || 0x10000 ≤ c.toNat

/-- A position: what follows it, and where it is. Columns count characters. -/
structure Cursor where
  rest : List Char
  /-- The number of bytes before it, in UTF-8. -/
  offset : Nat
  line : Nat
  column : Nat
  deriving Repr

namespace Cursor

def start (text : List Char) : Cursor := ⟨text, 0, 0, 0⟩

def byteCount (cs : List Char) : Nat := cs.foldl (fun n c => n + c.utf8Size) 0

def skip (n : Nat) (k : Cursor) : Cursor :=
  { k with
    rest := k.rest.drop n
    offset := k.offset + byteCount (k.rest.take n)
    column := k.column + n }

def takeWhile (p : Char → Bool) (k : Cursor) : List Char × Cursor :=
  let cs := k.rest.takeWhile p
  (cs, k.skip cs.length)

def skipWhile (p : Char → Bool) (k : Cursor) : Cursor := (k.takeWhile p).2

def sees (n : Nat) (p : Char → Bool) (k : Cursor) : Bool := (k.rest.drop n).head?.any p

/-- Whether nothing, a blank or a line end comes after `n` characters. -/
def seesGap (n : Nat) (k : Cursor) : Bool :=
  (k.rest.drop n).head?.all fun c => isBlank c || isBreak c

def atLineEnd (k : Cursor) : Bool := k.rest.head?.all isBreak

/-- Reads a line end, if there is one. Those of ASCII are all read as a line feed. -/
def readBreak (k : Cursor) : List Char × Cursor :=
  let newLine (n : Nat) : Cursor :=
    ⟨k.rest.drop n, k.offset + byteCount (k.rest.take n), k.line + 1, 0⟩
  match k.rest with
  | '\r' :: '\n' :: _ => (['\n'], newLine 2)
  | c :: _ =>
    if c = '\u2028' || c = '\u2029' then ([c], newLine 1)
    else if isBreak c then (['\n'], newLine 1)
    else ([], k)
  | [] => ([], k)

def skipBreak (k : Cursor) : Cursor := k.readBreak.2

def skipComment (k : Cursor) : Cursor :=
  if k.sees 0 (· = '#') then k.skipWhile (!isBreak ·) else k

/-- Whether a line with a mark between documents begins here. -/
def atDocumentMark (k : Cursor) : Bool :=
  k.column = 0 && k.seesGap 3 && (k.rest.take 3 = ['-', '-', '-'] || k.rest.take 3 = ['.', '.', '.'])

end Cursor

end Redfish.Yaml
