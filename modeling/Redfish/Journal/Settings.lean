import Redfish.Http.Header
import Redfish.Journal.Level

/-!
# What a journal shows
-/

namespace Redfish

structure JournalSettings where
  successLevel : Level
  errorLevel : Level
  logHeaders : Bool
  /-- Whether the values of sensitive header fields are left out. -/
  redactSensitive : Bool
  /-- The names of the sensitive header fields, in any case. -/
  sensitiveHeaders : List String
  deriving DecidableEq, Repr

namespace JournalSettings

def defaultSensitiveHeaders : List String := ["authorization", "x-auth-token", "cookie"]

def standard : JournalSettings := ⟨.debug, .warn, false, true, defaultSensitiveHeaders⟩

def verbose : JournalSettings := ⟨.info, .error, true, true, defaultSensitiveHeaders⟩

def quiet : JournalSettings := ⟨.off, .warn, false, true, defaultSensitiveHeaders⟩

def withSuccessLevel (level : Level) (s : JournalSettings) : JournalSettings :=
  { s with successLevel := level }

def withErrorLevel (level : Level) (s : JournalSettings) : JournalSettings :=
  { s with errorLevel := level }

def withHeaders (enabled : Bool) (s : JournalSettings) : JournalSettings :=
  { s with logHeaders := enabled }

def withRedaction (enabled : Bool) (s : JournalSettings) : JournalSettings :=
  { s with redactSensitive := enabled }

def withSensitiveHeader (name : String) (s : JournalSettings) : JournalSettings :=
  { s with sensitiveHeaders := s.sensitiveHeaders ++ [name] }

def isRedacted (s : JournalSettings) (name : String) : Bool :=
  s.redactSensitive && s.sensitiveHeaders.any (·.toLower == name.toLower)

def showField (s : JournalSettings) (name : String) (v : Http.HeaderValue) : String :=
  name ++ "=" ++ if s.isRedacted name then "[REDACTED]" else v.shown

def showHeaders (s : JournalSettings) (h : Http.Headers) : String :=
  ", ".intercalate (h.fields.map fun f => s.showField f.1 f.2)

end JournalSettings

end Redfish
