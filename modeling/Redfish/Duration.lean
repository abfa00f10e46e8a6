/-!
# Spans of time
-/

namespace Redfish

/-- A span of time in nanoseconds. -/
structure Duration where
  nanos : Nat
  deriving DecidableEq, Repr

namespace Duration

def ofSecs (n : Nat) : Duration := ⟨n * 1000000000⟩

def ofMillis (n : Nat) : Duration := ⟨n * 1000000⟩

def fractionText (part places : Nat) : String :=
  if part = 0 then ""
  else
    let digits := (toString part).toList
    let padded := List.replicate (places - digits.length) '0' ++ digits
    "." ++ String.ofList (padded.reverse.dropWhile (· = '0')).reverse

/-- The span in the largest of the units s, ms, µs and ns of which it holds at least one. -/
def text (d : Duration) : String :=
  let inUnit (places : Nat) (unit : String) :=
    toString (d.nanos / Nat.pow 10 places) ++ fractionText (d.nanos % Nat.pow 10 places) places ++ unit
  if 1000000000 ≤ d.nanos then inUnit 9 "s"
  else if 1000000 ≤ d.nanos then inUnit 6 "ms"
  else if 1000 ≤ d.nanos then inUnit 3 "µs"
  else inUnit 0 "ns"

end Duration

end Redfish
