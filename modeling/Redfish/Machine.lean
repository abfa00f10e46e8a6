import Redfish.Text.Utf8

/-!
# The machine that a program runs on
-/

namespace Redfish

/-- What a program is told by its machine. -/
structure Machine where
  valueOf? : String → Option String
  accountHome : Option String
  hasFile : String → Bool
  /-- The content of a file, or why it cannot be read. -/
  content : String → Except String Bytes
  /-- Why a certificate cannot be trusted; `none` if it can. -/
  refusal : (certificate : Bytes) → Option String

end Redfish
