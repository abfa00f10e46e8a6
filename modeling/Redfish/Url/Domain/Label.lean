import Redfish.Text.Direction
import Redfish.Text.Joining
import Redfish.Text.Mark
import Redfish.Url.Domain.Meaning
import Redfish.Url.Punycode

/-!
# Labels of a domain

A label has a spelling for readers and one in ASCII. Which labels there are depends on the scripts: a mark
begins none, joiners stand only where they change the look of a letter, and where a part of the domain is
written from the right, each label has one direction.
-/

namespace Redfish.Url.Domain

structure Label where
  /-- The label as readers spell it. -/
  spelling : List Char
  /-- The label as it is compared and sent. -/
  ascii : List Char
  deriving DecidableEq, Repr

namespace Label

def marker : List Char := ['x', 'n', '-', '-']

/-- The number of characters up to which the digits of a label are read. -/
def longestDigits : Nat := 2000

/-- The number of characters up to which a label is written in digits. -/
def longestSpelling : Nat := 1000

/-- Whether a letter of one of two classes comes next, marks aside. -/
def meets (side : Joining) (cs : List Char) : Bool :=
  ((cs.map Joining.of).find? (· ≠ .transparent)).any fun j => j = .both || j = side

/-- Whether a joiner may stand between two texts, the first of which is in reverse: behind a sign that
takes the vowel from a consonant, or, if it keeps apart, between letters that would be joined. -/
def joinerFits (apart : Bool) (before after : List Char) : Bool :=
  (before.head?.any fun c => CombiningClass.of c = CombiningClass.virama) ||
    (apart && meets .left before && meets .right after)

def joinersFit (before : List Char) : List Char → Bool
  | [] => true
  | c :: cs =>
    (if c = '\u200C' then joinerFits true before cs
      else c != '\u200D' || joinerFits false before cs) &&
      joinersFit (c :: before) cs

/-- Whether a spelling is that of a label, its direction aside. -/
def isSound (spelling : List Char) : Bool :=
  !spelling.head?.any Mark.isMark && joinersFit [] spelling

/-- Whether a text has one direction: it begins with a letter, and what it holds and how it ends goes
with the direction of that letter. -/
def hasOneDirection (cs : List Char) : Bool :=
  let ds := cs.map Direction.of
  let ending := (ds.reverse.find? (· ≠ .mark)).getD .neutral
  match ds.head? with
  | none => true
  | some .left =>
    !ds.any (·.isRightToLeft) && (ending = .left || ending = .number)
  | some d =>
    (d = .right || d = .arabicLetter) && !ds.contains .left && (ending.isRightToLeft || ending = .number) &&
      !(ds.contains .arabicNumber && ds.contains .number)

def directionsFit (labels : List Label) : Bool :=
  let rightToLeft (l : Label) : Bool :=
    !isAscii l.spelling && l.spelling.any fun c => (Direction.of c).isRightToLeft
  !labels.any rightToLeft || labels.all fun l => hasOneDirection l.spelling

/-- The label that digits in Punycode stand for: one that needs them, and that is the only spelling of what
it stands for. -/
def ofDigits? (digits : List Char) : Option Label := do
  if longestDigits < digits.length || digits.getLast? = some '-' then none
  else
    let spelling ← Punycode.decode digits
    if !isAscii spelling && spelling.all isPlain && NormalForm.of spelling = spelling &&
        isSound spelling then
      some ⟨spelling, marker ++ digits⟩
    else none

def ofSpelling? (spelling : List Char) : Option Label :=
  if isSound spelling && spelling.length ≤ longestSpelling then
    some ⟨spelling, marker ++ Punycode.encode spelling⟩
  else none

def of? (part : List Char) : Option Label :=
  match part with
  | 'x' :: 'n' :: '-' :: '-' :: digits => if isAscii digits then ofDigits? digits else none
  | _ => if isAscii part then some ⟨part, part⟩ else ofSpelling? part

end Label

end Redfish.Url.Domain
