import Redfish.Error
import Redfish.Machine
import Redfish.Profile.Codec

/-!
# Loading profiles

The profile file stands in the home directory unless a variable names another one. Variables override
the settings of the active profile.
-/

namespace Redfish

namespace Profile.Variable

def file : String := "REDFISHCONFIG"

def active : String := "REDFISH_PROFILE"

def endpoint : String := "REDFISH_ENDPOINT"

def username : String := "REDFISH_USERNAME"

def password : String := "REDFISH_PASSWORD"

def insecure : String := "REDFISH_INSECURE"

end Profile.Variable

namespace ProfileFile

open Profile (Variable.file Variable.active Variable.endpoint Variable.username Variable.password
  Variable.insecure)

def ofText (text : String) : Except Error ProfileFile :=
  match ofYaml? text with
  | some f => .ok f
  | none => .error (.config "Failed to parse config YAML: <yaml>")

def load (m : Machine) (path : String) : Except Error ProfileFile :=
  let failed (reason : String) : Error :=
    .config ("Failed to read config file " ++ path ++ ": " ++ reason)
  match m.content path with
  | .error reason => .error (failed reason)
  | .ok bytes =>
    match bytes.text? with
    | some text => ofText text
    | none => .error (failed "stream did not contain valid UTF-8")

def below (directory name : String) : String :=
  if directory.toList.getLast? = some '/' then directory ++ name else directory ++ "/" ++ name

def home? (m : Machine) : Option String :=
  (m.valueOf? "HOME").filter (!·.isEmpty) <|> m.accountHome

def defaultPath (m : Machine) : Except Error String :=
  match home? m with
  | some home => .ok (below (below home ".redfish") "config")
  | none => .error (.config "Could not determine home directory")

def path (m : Machine) : Except Error String :=
  match m.valueOf? Variable.file with
  | some p => .ok p
  | none => defaultPath m

def loadDefault (m : Machine) : Except Error ProfileFile := do load m (← path m)

def isBlank (c : Char) : Bool :=
  [(0x9, 0xD), (0x20, 0x20), (0x85, 0x85), (0xA0, 0xA0), (0x1680, 0x1680), (0x2000, 0x200A),
   (0x2028, 0x2029), (0x202F, 0x202F), (0x205F, 0x205F), (0x3000, 0x3000)].any
    fun (first, last) => first ≤ c.toNat && c.toNat ≤ last

def saysYes (text : String) : Bool :=
  let trimmed := ((text.toList.dropWhile isBlank).reverse.dropWhile isBlank).reverse
  ["1", "true", "yes"].contains (String.ofList trimmed).toLower

def defaultName : String := "default"

/-- The endpoint in the variables. An empty one is none. -/
def endpointVariable? (valueOf? : String → Option String) : Option String :=
  (valueOf? Variable.endpoint).filter (!·.isEmpty)

def hasOverrides (valueOf? : String → Option String) : Bool :=
  (endpointVariable? valueOf?).isSome ||
    [Variable.username, Variable.password, Variable.insecure].any fun name => (valueOf? name).isSome

def overrideProfile (valueOf? : String → Option String) (p : Profile) : Profile :=
  { p with
    endpoint := (endpointVariable? valueOf?).getD p.endpoint
    username := valueOf? Variable.username <|> p.username
    password := valueOf? Variable.password <|> p.password
    insecure := ((valueOf? Variable.insecure).map saysYes).getD p.insecure }

/-- The file that was loaded, if any, with the settings that the variables override. Without a file the
variables have to give an endpoint. -/
def withOverrides (valueOf? : String → Option String) (loaded : Option ProfileFile) :
    Except Error ProfileFile := do
  let endpoint := endpointVariable? valueOf?
  let file ← match loaded, endpoint with
    | some file, _ => pure file
    | none, some _ => pure empty
    | none, none =>
      throw (.config ("No config file found and " ++ Variable.endpoint ++ " is not set"))
  let active := (valueOf? Variable.active).filter (!·.isEmpty) <|> file.active
  let name := active.getD defaultName
  if !hasOverrides valueOf? then return { file with active }
  if (file.profile? name).isNone && endpoint.isNone then
    throw (.config ("Profile '" ++ name ++ "' not found and " ++ Variable.endpoint ++ " is not set"))
  let p := overrideProfile valueOf? ((file.profile? name).getD Profile.blank)
  return ⟨some name, file.profiles.put name p⟩

/-- Loads the file, if there is one, and lets the variables override its settings. -/
def loadWithOverrides (m : Machine) : Except Error ProfileFile := do
  let p ← path m
  let loaded ← if m.hasFile p then some <$> load m p else pure none
  withOverrides m.valueOf? loaded

end ProfileFile

end Redfish
