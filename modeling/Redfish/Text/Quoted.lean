import Redfish.Text.Hex
import Redfish.Text.Unprintable

/-!
# Quoted text

A text shown for a reader: between double quotes, with a backslash before a quote or a backslash,
the usual letters for NUL, tab, line feed and carriage return, and every other unprintable character
by its number in braces.
-/

namespace Redfish.Quoted

def escape (c : Char) : String :=
  if c = '"' then "\\\""
  else if c = '\\' then "\\\\"
  else if c = '\x00' then "\\0"
  else if c = '\t' then "\\t"
  else if c = '\n' then "\\n"
  else if c = '\r' then "\\r"
  else if Unprintable.isUnprintable c then "\\u\x7b" ++ Hex.lower c.toNat ++ "\x7d"
  else c.toString

def quote (s : String) : String :=
  "\"" ++ String.join (s.toList.map escape) ++ "\""

/-- An optional text: its presence is shown too. -/
def quote? : Option String → String
  | none => "None"
  | some s => "Some(" ++ quote s ++ ")"

end Redfish.Quoted
