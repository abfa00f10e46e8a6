/-!
# Punycode

A label with characters outside ASCII is written with the ASCII ones first, a hyphen behind them, and
then, in the order of their numbers, where each of the others goes. The differences are written in base
36 with a moving threshold between the digits that go on and the last one.
-/

namespace Redfish.Url.Punycode

def digit (n : Nat) : Char := Char.ofNat (if n < 26 then 0x61 + n else 0x16 + n)

def value? (c : Char) : Option Nat :=
  if 'a' ≤ c ∧ c ≤ 'z' then some (c.toNat - 0x61)
  else if 'A' ≤ c ∧ c ≤ 'Z' then some (c.toNat - 0x41)
  else if '0' ≤ c ∧ c ≤ '9' then some (c.toNat - 0x16)
  else none

/-- The threshold at a position, which counts up in steps of 36. -/
def threshold (position bias : Nat) : Nat :=
  if position ≤ bias + 1 then 1 else if bias + 26 ≤ position then 26 else position - bias

theorem threshold_bounds (position bias : Nat) :
    1 ≤ threshold position bias ∧ threshold position bias ≤ 26 := by
  unfold threshold
  split
  · omega
  · split <;> omega

def adaptSteps (delta : Nat) (bias : Nat) : Nat × Nat :=
  if 455 < delta then adaptSteps (delta / 35) (bias + 36) else (delta, bias)
termination_by delta
decreasing_by exact Nat.div_lt_self (by omega) (by omega)

def adapt (delta places : Nat) (first : Bool) : Nat :=
  let delta := if first then delta / 700 else delta / 2
  let (delta, bias) := adaptSteps (delta + delta / places) 0
  bias + 36 * delta / (delta + 38)

def encodeNumber (bias position : Nat) (n : Nat) : List Char :=
  let t := threshold position bias
  if n < t then [digit n]
  else digit (t + (n - t) % (36 - t)) :: encodeNumber bias (position + 36) ((n - t) / (36 - t))
termination_by n
decreasing_by
  have h := threshold_bounds position bias
  have : (n - threshold position bias) / (36 - threshold position bias) ≤
      n - threshold position bias := Nat.div_le_self ..
  omega

structure Writer where
  output : List Char
  delta : Nat
  bias : Nat
  handled : Nat

/-- Goes past one character of the label while those numbered `n` are being written. -/
def Writer.pass (basic n : Nat) (w : Writer) (c : Char) : Writer :=
  if c.toNat < n then { w with delta := w.delta + 1 }
  else if c.toNat = n then
    { output := w.output ++ encodeNumber w.bias 36 w.delta
      delta := 0
      bias := adapt w.delta (w.handled + 1) (w.handled = basic)
      handled := w.handled + 1 }
  else w

def encodeFrom (label : List Char) (basic : Nat) : (n : Nat) → List Nat → Writer → Writer
  | _, [], w => w
  | n, next :: more, w =>
    let w := { w with delta := w.delta + (next - n) * (w.handled + 1) }
    let w := label.foldl (Writer.pass basic next) w
    encodeFrom label basic (next + 1) more { w with delta := w.delta + 1 }

def numbers (label : List Char) : List Nat :=
  (((label.map Char.toNat).filter (0x80 ≤ ·)).mergeSort).eraseDups

def encode (label : List Char) : List Char :=
  let basic := label.filter (·.toNat < 0x80)
  let w := encodeFrom label basic.length 0x80 (numbers label) ⟨[], 0, 72, basic.length⟩
  basic ++ (if basic.isEmpty then [] else ['-']) ++ w.output

/-- Reads the digits of a difference and adds it to `n`. Numbers stay within a word of 32 bits. -/
def decodeNumber (bias : Nat) : (position weight n : Nat) → List Char → Option (Nat × List Char)
  | _, _, _, [] => none
  | position, weight, n, c :: cs => do
    let d ← value? c
    let n := n + d * weight
    let t := threshold position bias
    if UInt32.size ≤ n then none
    else if d < t then some (n, cs)
    else if UInt32.size ≤ weight * (36 - t) then none
    else decodeNumber bias (position + 36) (weight * (36 - t)) n cs

/-- Puts the characters into their places. Each takes at least one digit, so the number of digits is
fuel enough. -/
def decodeFrom : (fuel : Nat) → (first : Bool) → (label : List Char) → (n i bias : Nat) →
    List Char → Option (List Char)
  | _, _, label, _, _, _, [] => some label
  | 0, _, _, _, _, _, _ :: _ => none
  | fuel + 1, first, label, n, i, bias, c :: cs => do
    let (next, rest) ← decodeNumber bias 36 1 i (c :: cs)
    let places := label.length + 1
    let n := n + next / places
    let at_ := next % places
    if n.isValidChar then
      decodeFrom fuel false (label.take at_ ++ Char.ofNat n :: label.drop at_) n (at_ + 1)
        (adapt (next - i) places first) rest
    else none

/-- The label that a written form stands for. A hyphen at its start is none that ends the ASCII
characters. -/
def decode (cs : List Char) : Option (List Char) :=
  let basic := (cs.reverse.dropWhile (· ≠ '-')).drop 1 |>.reverse
  let digits := if basic.isEmpty then cs else cs.drop (basic.length + 1)
  decodeFrom digits.length true basic 0x80 0 72 digits

end Redfish.Url.Punycode
