/-!
# What can be wrong with a JSON text

A text is read from left to right and the first thing wrong with it is what is reported: it ended too
early, it is not JSON, or it is JSON of another kind than was asked for.
-/

namespace Redfish.Json

inductive Mismatch
  | invalidType
  | invalidValue
  | duplicateField
  | missingField
  deriving DecidableEq, Repr

/-- The first thing wrong with a text. -/
inductive Fault
  | ended
  | malformed
  | data (kind : Mismatch)
  deriving DecidableEq, Repr

def Mismatch.words : Mismatch → String
  | .invalidType => "invalid type"
  | .invalidValue => "invalid value"
  | .duplicateField => "duplicate field"
  | .missingField => "missing field"

def Fault.words : Fault → String
  | .ended => "eof"
  | .malformed => "syntax"
  | .data kind => "data: " ++ kind.words

end Redfish.Json
