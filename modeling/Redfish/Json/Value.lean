import Redfish.Table

/-!
# JSON values

An object is the table of its members.
-/

namespace Redfish.Json

/-- A number keeps apart integers and reals: `1` and `1.0` are different numbers. -/
inductive Number
  | integer (value : Int)
  | real (value : Float)

/-- Integers compare as integers and reals as reals, so `0.0` equals `-0.0`. -/
def Number.beq : Number → Number → Bool
  | .integer a, .integer b => a == b
  | .real a, .real b => a == b
  | _, _ => false

instance : BEq Number := ⟨Number.beq⟩

inductive Value
  | null
  | bool (value : Bool)
  | number (value : Number)
  | text (value : String)
  | array (items : List Value)
  | object (members : List (String × Value))

instance : Inhabited Value := ⟨.null⟩

mutual

def Value.beq : Value → Value → Bool
  | .null, .null => true
  | .bool a, .bool b => a == b
  | .number a, .number b => a == b
  | .text a, .text b => a == b
  | .array xs, .array ys => itemsBeq xs ys
  | .object xs, .object ys => membersBeq xs ys
  | _, _ => false

def itemsBeq : List Value → List Value → Bool
  | [], [] => true
  | x :: xs, y :: ys => x.beq y && itemsBeq xs ys
  | _, _ => false

def membersBeq : List (String × Value) → List (String × Value) → Bool
  | [], [] => true
  | (m, x) :: xs, (n, y) :: ys => m == n && x.beq y && membersBeq xs ys
  | _, _ => false

end

instance : BEq Value := ⟨Value.beq⟩

abbrev Object := Table Value

end Redfish.Json
