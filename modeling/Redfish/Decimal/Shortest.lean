/-!
# The shortest decimal that reads back

A positive finite binary64 number is `m · 2 ^ q`. The reals that round to it form an interval, whose
ends belong to it when `m` is even. `shortest` is the point of the coarsest decimal grid that falls
into the interval, the nearer of two, and of two equally near the even one. A coarser grid means fewer
digits, and if a point of a grid lies in the interval then so does one of the value's two neighbours
on that grid.
-/

namespace Redfish.Decimal

/-- A positive finite binary64 number, `significand · 2 ^ exponent`. -/
structure Binary where
  significand : Nat
  exponent : Int
  /-- The number below is only half as far away as the number above. -/
  nearerBelow : Bool

/-- `digits · 10 ^ exponent`. -/
structure Scaled where
  digits : Nat
  exponent : Int
  deriving DecidableEq, Repr

namespace Binary

/-- The bit above the fraction, set in the significand of a normal number: `2 ^ 52`. -/
def leadingBit : Nat := 0x10000000000000

def ofFloat (x : Float) : Binary :=
  let bits := x.toBits.toNat
  let fraction := bits % leadingBit
  let biased := bits / leadingBit % 2048
  if biased = 0 then ⟨fraction, -1074, false⟩
  else ⟨fraction + leadingBit, (biased : Int) - 1075, fraction = 0 && biased ≠ 1⟩

/-- The factor that scales a count of quarter units (`2 ^ (exponent - 2)`) to the grid of `10 ^ k`, as
a fraction. -/
def gridFactor (b : Binary) (k : Int) : Nat × Nat :=
  (Nat.pow 2 (b.exponent - 2).toNat * Nat.pow 10 (-k).toNat,
    Nat.pow 2 (2 - b.exponent).toNat * Nat.pow 10 k.toNat)

/-- Whether `c · 10 ^ k` rounds to the number. -/
def reads (b : Binary) (k : Int) (c : Nat) : Bool :=
  let (num, den) := b.gridFactor k
  let low := (4 * b.significand - if b.nearerBelow then 1 else 2) * num
  let high := (4 * b.significand + 2) * num
  if b.significand % 2 = 0 then low ≤ c * den && c * den ≤ high
  else low < c * den && c * den < high

/-- The neighbour of the number on the grid of `10 ^ k` that rounds to it, the nearer of two. -/
def onGrid? (b : Binary) (k : Int) : Option Nat :=
  let (num, den) := b.gridFactor k
  let value := 4 * b.significand * num
  let below := value / den
  let above := below + 1
  match below ≠ 0 && b.reads k below, b.reads k above with
  | true, true =>
    let left := value - below * den
    let right := above * den - value
    if left < right ∨ left = right ∧ below % 2 = 0 then some below else some above
  | true, false => some below
  | false, true => some above
  | false, false => none

def search (b : Binary) : (steps : Nat) → (k : Int) → Scaled
  | 0, k => ⟨4 * b.significand * (b.gridFactor k).1 / (b.gridFactor k).2, k⟩
  | steps + 1, k =>
    match b.onGrid? k with
    | some c => ⟨c, k⟩
    | none => b.search steps (k - 1)

/-- The shortest decimal of the number. No grid coarser than the first one tried has a point near the
number, and seventeen digits always suffice. -/
def shortest (b : Binary) : Scaled :=
  let width : Int := b.exponent + b.significand.log2 + 1
  b.search 32 (width * 30103 / 100000 + 2)

end Binary

end Redfish.Decimal
