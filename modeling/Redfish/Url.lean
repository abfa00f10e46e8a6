import Redfish.Url.Host
import Redfish.Url.Path

/-!
# URLs

A URL is read up to its port; what follows is only looked into for the URLs that requests are made to,
since nothing there is an error.
-/

namespace Redfish

structure Url where
  scheme : String
  host : Option Url.Host
  /-- The port, unless it is the usual one of the scheme. -/
  port : Option Nat
  rest : List Char
  deriving DecidableEq, Repr

namespace Url

inductive Kind
  /-- The host is a name or an address, and a backslash is as good as a slash. -/
  | special
  | file
  /-- The host is not looked into. -/
  | other
  deriving DecidableEq, Repr

def kind (scheme : String) : Kind :=
  if ["http", "https", "ws", "wss", "ftp"].contains scheme then .special
  else if scheme = "file" then .file
  else .other

def defaultPort? (scheme : String) : Option Nat :=
  [("http", 80), ("ws", 80), ("https", 443), ("wss", 443), ("ftp", 21)].lookup scheme

/-- The text without blanks at its ends, and without tabs and line ends anywhere. -/
def clean (text : String) : List Char :=
  let isBlank (c : Char) : Bool := c ≤ ' '
  let trimmed := ((text.toList.dropWhile isBlank).reverse.dropWhile isBlank).reverse
  trimmed.filter fun c => c ≠ '\t' && c ≠ '\n' && c ≠ '\r'

def readScheme : List Char → Option (List Char × List Char)
  | [] => none
  | c :: cs =>
    if c = ':' then some ([], cs)
    else if c.isAlphanum || c = '+' || c = '-' || c = '.' then
      (readScheme cs).map fun (scheme, rest) => (c.toLower :: scheme, rest)
    else none

def splitScheme? : List Char → Option (String × List Char)
  | [] => none
  | c :: cs =>
    if c.isAlpha then
      (readScheme (c :: cs)).map fun (scheme, rest) => (String.ofList scheme, rest)
    else none

def endsAuthority (k : Kind) (c : Char) : Bool :=
  c = '/' || c = '?' || c = '#' || (c = '\\' && k ≠ .other)

/-- What stands before the last at sign and what follows it. -/
def splitAtSign? (cs : List Char) : Option (List Char × List Char) :=
  if cs.contains '@' then
    let host := (cs.reverse.takeWhile (· ≠ '@')).reverse
    some (cs.take (cs.length - host.length - 1), host)
  else none

/-- Reads the user of an authority: whether there is one, and what follows it. -/
def readUser (k : Kind) (cs : List Char) : Except Fault (Bool × List Char) :=
  let authority := cs.takeWhile (!endsAuthority k ·)
  let after := cs.drop authority.length
  match splitAtSign? authority with
  | none => .ok (false, cs)
  | some ([], []) => if after.isEmpty then .ok (false, []) else .error .emptyHost
  | some (user, host) => .ok (user ≠ [] && user ≠ [':'], host ++ after)

/-- Reads a host: its text and what follows it. A colon in brackets is part of it. -/
def readHost (k : Kind) : (bracketed : Bool) → List Char → List Char × List Char
  | _, [] => ([], [])
  | bracketed, c :: cs =>
    if endsAuthority k c || (c = ':' && !bracketed) then ([], c :: cs)
    else
      let (host, rest) := readHost k (c = '[' || (bracketed && c ≠ ']')) cs
      (c :: host, rest)

def readPort : (port : Option Nat) → List Char → Except Fault (Option Nat × List Char)
  | port, [] => .ok (port, [])
  | port, c :: cs =>
    if Ipv4.isDigit c then
      let n := 10 * port.getD 0 + (c.toNat - '0'.toNat)
      if 65535 < n then .error .invalidPort else readPort (some n) cs
    else if ['/', '\\', '?', '#'].contains c then .ok (port, c :: cs)
    else .error .invalidPort

def readPortPart (scheme : String) : List Char → Except Fault (Option Nat × List Char)
  | ':' :: cs => do
    let (port, rest) ← readPort none cs
    return (port.filter fun n => defaultPort? scheme ≠ some n, rest)
  | cs => .ok (none, cs)

def parseAuthority (scheme : String) (cs : List Char) : Except Fault Url := do
  let k := kind scheme
  let (hasUser, cs) ← readUser k cs
  let (text, rest) := readHost k false cs
  if text.isEmpty then
    if k = .special || hasUser || rest.head? = some ':' then throw .emptyHost
    return ⟨scheme, none, none, rest⟩
  let host ← if k = .special then Host.parse text else Host.parseOpaque text
  let (port, rest) ← readPortPart scheme rest
  return ⟨scheme, some host, port, rest⟩

def parseFile (cs : List Char) : Except Fault Url := do
  let text := cs.takeWhile (!endsAuthority .file ·)
  let rest := cs.drop text.length
  let path := (rest.takeWhile fun c => c ≠ '?' && c ≠ '#').map fun c => if c = '\\' then '/' else c
  let leadsToDrive := Path.reachesDrive [] ((path.drop 1).splitOn '/')
  if text.isEmpty || Path.isDrive text then return ⟨"file", none, none, cs⟩
  let host ← Host.parse text
  if host = .domain "localhost" || leadsToDrive then return ⟨"file", none, none, rest⟩
  return ⟨"file", some host, none, rest⟩

def isSlash (c : Char) : Bool := c = '/' || c = '\\'

def parse (text : String) : Except Fault Url :=
  match splitScheme? (clean text) with
  | none => .error .noBase
  | some (scheme, cs) =>
    match kind scheme, cs with
    | .special, cs => parseAuthority scheme (cs.dropWhile isSlash)
    | .file, a :: b :: cs =>
      if isSlash a && isSlash b then parseFile cs else .ok ⟨scheme, none, none, a :: b :: cs⟩
    | .other, '/' :: '/' :: cs => parseAuthority scheme cs
    | _, cs => .ok ⟨scheme, none, none, cs⟩

def portOrDefault (u : Url) : Option Nat := u.port <|> defaultPort? u.scheme

/-- The path and the query that a request is made for, of a URL of a special kind. -/
def target (u : Url) : String :=
  let located := u.rest.takeWhile (· ≠ '#')
  let path := (located.takeWhile (· ≠ '?')).map fun c => if c = '\\' then '/' else c
  let below := match path with
    | '/' :: cs => cs
    | cs => cs
  let query := match located.dropWhile (· ≠ '?') with
    | [] => []
    | _ :: cs => '?' :: percentEncode encodedInQuery cs
  String.ofList (Path.normal below ++ query)

end Url

end Redfish
