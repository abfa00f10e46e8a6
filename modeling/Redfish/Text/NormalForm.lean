import Redfish.Text.CombiningClass
import Redfish.Text.Composite

/-!
# The composed normal form

A text has many spellings that read the same. Its normal form takes all composite characters apart, puts
the marks of each character into the order of their classes, and joins what can be joined.
-/

namespace Redfish.NormalForm

/-- Takes a character apart, and what it spells, so many times. -/
def takeApart : (depth : Nat) → Char → List Char
  | 0, c => [c]
  | depth + 1, c =>
    match Composite.parts? c with
    | some cs => cs.flatMap (takeApart depth)
    | none => [c]

def depth : Nat := 4

/-- Adds a character to a text in reverse, before the marks of a higher class. -/
def settle (c : Char) : List Char → List Char
  | [] => [c]
  | d :: ds =>
    if CombiningClass.of c ≠ 0 && CombiningClass.of c < CombiningClass.of d then d :: settle c ds
    else c :: d :: ds

def order (cs : List Char) : List Char := (cs.foldl (fun done c => settle c done) []).reverse

structure Joiner where
  done : List Char
  /-- The last character of class zero, to which those behind it may be joined. -/
  starter : Option Char
  /-- The marks behind it that were not joined to it, in reverse. -/
  pending : List Char

namespace Joiner

def flush (j : Joiner) : List Char := j.pending ++ j.starter.toList ++ j.done

/-- Whether no mark stands between the starter and a character of a class. -/
def reaches (j : Joiner) (k : Nat) : Bool := j.pending.head?.all fun d => CombiningClass.of d < k

def join? (j : Joiner) (c : Char) : Option Char :=
  if j.reaches (CombiningClass.of c) then j.starter.bind (Composite.join? · c) else none

def push (j : Joiner) (c : Char) : Joiner :=
  match j.join? c with
  | some joined => { j with starter := some joined }
  | none =>
    if CombiningClass.of c = 0 then ⟨j.flush, some c, []⟩
    else { j with pending := c :: j.pending }

end Joiner

def join (cs : List Char) : List Char := (cs.foldl Joiner.push ⟨[], none, []⟩).flush.reverse

def of (cs : List Char) : List Char := join (order (cs.flatMap (takeApart depth)))

end Redfish.NormalForm
