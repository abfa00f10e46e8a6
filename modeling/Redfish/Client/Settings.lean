import Redfish.Duration
import Redfish.Journal.Settings

/-!
# Settings of a client
-/

namespace Redfish

structure ClientSettings where
  endpoint : String
  username : Option String
  password : Option String
  caPath : Option String
  /-- Whether certificates go unverified. -/
  insecure : Bool
  timeout : Duration
  logging : JournalSettings
  deriving DecidableEq, Repr

namespace ClientSettings

def forEndpoint (endpoint : String) : ClientSettings :=
  ⟨endpoint, none, none, none, false, .ofSecs 30, .standard⟩

def standard : ClientSettings := forEndpoint "https://127.0.0.1:443"

def withCredentials (username password : String) (s : ClientSettings) : ClientSettings :=
  { s with username := some username, password := some password }

def withCaPath (path : String) (s : ClientSettings) : ClientSettings := { s with caPath := some path }

def allowInsecure (s : ClientSettings) : ClientSettings := { s with insecure := true }

def withTimeout (timeout : Duration) (s : ClientSettings) : ClientSettings :=
  { s with timeout }

def withLogging (logging : JournalSettings) (s : ClientSettings) : ClientSettings :=
  { s with logging }

end ClientSettings

end Redfish
