/-!
# Properties of code points

A property of characters is a table over code points: ranges for a set, ranges for each class of a
partition, and rows or runs for a function. Each table lists code points in increasing order.
-/

namespace Redfish.CodePoint

/-- A set of code points: the first and the last of each range. -/
abbrev Ranges := List (Nat × Nat)

def within (ranges : Ranges) (c : Char) : Bool :=
  ranges.any fun (first, last) => first ≤ c.toNat && c.toNat ≤ last

abbrev Classes (κ : Type) := List (κ × Ranges)

def classOf? {κ : Type} (classes : Classes κ) (c : Char) : Option κ :=
  (classes.find? fun (_, ranges) => within ranges c).map (·.1)

/-- Rows of values: the first code point of a row, and the values of it and those behind it. -/
abbrev Rows (α : Type) := List (Nat × List α)

def valueAt? {α : Type} (rows : Rows α) (c : Char) : Option α :=
  rows.findSome? fun (first, values) => if first ≤ c.toNat then values[c.toNat - first]? else none

def whereIs? {α : Type} [BEq α] (rows : Rows α) (value : α) : Option Nat :=
  rows.findSome? fun (first, values) => (values.idxOf? value).map (first + ·)

/-- Runs of code points in equal steps, with values in the same steps: the first, the last, the step, and
the value of the first. -/
abbrev Runs := List (Nat × Nat × Nat × Nat)

def shifted? (runs : Runs) (c : Char) : Option Nat :=
  (runs.find? fun (first, last, step, _) =>
    first ≤ c.toNat && c.toNat ≤ last && (c.toNat - first) % step = 0).map
    fun (first, _, _, value) => value + (c.toNat - first)

end Redfish.CodePoint
