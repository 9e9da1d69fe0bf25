import Passcode.Redis.Fault
import Passcode.Text.Address
import Passcode.Text.Percent

/-!
# Connection strings

Where a Redis server is and how to introduce oneself: a host and port, or the path of a socket,
with an optional user, an optional password and the number of a database. A string that names no
server is refused before any connection is tried.
-/

namespace Passcode.Redis

open Passcode.Text (splitAtFirst splitAtLast splitOn)

/-- Where a server listens. -/
inductive Address where
  | tcp (host : String) (port : Nat)
  | socket (path : String)
deriving Repr, DecidableEq

/-- What a connection string names. -/
structure Endpoint where
  address : Address
  user : Option String
  password : Option String
  database : Int
deriving Repr, DecidableEq

/-- What a connection string says between `//` and the path. -/
structure Authority where
  /-- The user, and the password after a colon. -/
  info : List Char
  /-- The name of the host; it may be empty. -/
  host : List Char
  port? : Option Nat

/-- A connection string cut into its parts. -/
structure UrlParts where
  scheme : String
  authority? : Option Authority
  path : List Char
  query : List Char

/-- Whether a character may not stand in the name of a host. -/
def isForbiddenInHost (c : Char) : Bool :=
  [' ', '#', '/', ':', '<', '>', '?', '@', '[', '\\', ']', '^', '|', '\x00'].contains c

/-- A host and what stands after it. -/
def hostAndRest? : List Char → Option (List Char × List Char)
  | '[' :: s => do
    let (inner, rest) ← splitAtFirst ']' s
    guard (Text.isIpv6 inner)
    return (inner, rest)
  | s =>
    let host := s.takeWhile (· ≠ ':')
    if host.any isForbiddenInHost then none else some (host, s.drop host.length)

/-- Cut an authority. A host without a name has neither a user nor a port. -/
def Authority.ofChars? (s : List Char) : Option Authority := do
  let (info?, place) := match splitAtLast '@' s with
    | some (info, place) => (some info, place)
    | none => (none, s)
  let (host, rest) ← hostAndRest? place
  guard (host ≠ [] || rest = [] && (info? = none || info? = some [':']))
  let port := rest.drop 1
  guard (rest.head?.all (· = ':') && port.all Text.isDigit && Text.digitsValue 0 port ≤ 65535)
  let port? := if port = [] then none else some (Text.digitsValue 0 port)
  return ⟨info?.getD [], host, port?⟩

/-- Whether a segment of a path stands for the place it is at; points may be encoded. -/
def isHere (segment : String) : Bool := [".", "%2e"].contains segment.toLower

/-- Whether a segment of a path stands for the place above it. -/
def isAbove (segment : String) : Bool :=
  ["..", ".%2e", "%2e.", "%2e%2e"].contains segment.toLower

/-- Whether a segment of a path is the letter of a drive, which nothing is above. -/
def isDrive (segment : String) : Bool :=
  match segment.toList with
  | [letter, mark] => letter.isAlpha && (mark = ':' || mark = '|')
  | _ => false

/-- The segments of a path, the last first, after walking along further ones. Nothing is above the
root or a drive; a walk that ends on a step up or on a place that stays ends on an empty segment. -/
def walk (walked : List String) : List String → List String
  | [] => walked
  | segment :: more =>
    let stop := if more = [] then [""] else []
    if isAbove segment then
      walk (stop ++ if walked.head?.any isDrive then walked else walked.tail) more
    else if isHere segment then walk (stop ++ walked) more
    else walk (segment :: walked) more

/-- A path without the segments that only say where to go. -/
def resolved : List Char → List Char
  | '/' :: path =>
    (walk [] ((splitOn '/' path).map String.ofList)).reverse.flatMap fun s => '/' :: s.toList
  | path => path

/-- Cut a connection string. A blank around it counts for nothing. -/
def UrlParts.ofChars? (s : List Char) : Option UrlParts := do
  let isEdge (c : Char) : Bool := c ≤ ' '
  let s := ((s.dropWhile isEdge).reverse.dropWhile isEdge).reverse
  let s := s.filter fun c => c ≠ '\t' && c ≠ '\n' && c ≠ '\r'
  let (scheme, rest) ← splitAtFirst ':' s
  guard ((scheme.head?.map Char.isAlpha).getD false)
  guard (scheme.all fun c => c.isAlphanum || c = '+' || c = '-' || c = '.')
  let rest := rest.takeWhile (· ≠ '#')
  let (rest, query) := (splitAtFirst '?' rest).getD (rest, [])
  let scheme := String.ofList (scheme.map Char.toLower)
  match rest with
  | '/' :: '/' :: more =>
    let authority ← Authority.ofChars? (more.takeWhile (· ≠ '/'))
    return ⟨scheme, some authority, resolved (more.dropWhile (· ≠ '/')), query⟩
  | path => return ⟨scheme, none, resolved path, query⟩

/-- The value of the last field of a query with a name. -/
def queryField? (query : List Char) (name : String) : Option String :=
  let fields := (splitOn '&' query).filter (· ≠ [])
  let pairs := fields.map fun f =>
    let (k, v) := (splitAtFirst '=' f).getD (f, [])
    (String.ofList (Text.decodeForm k), String.ofList (Text.decodeForm v))
  pairs.reverse.lookup name

/-- A text, if there is one. -/
def nonEmpty? (s : List Char) : Option (List Char) := if s = [] then none else some s

/-- The port of a server where a connection string names none. -/
def defaultPort : Nat := 6379

/-- The number of a database. -/
def databaseOf (text : List Char) : Except Fault Int :=
  match (Text.signed? text).filter (fitsSigned 64) with
  | some n => .ok n
  | none => .error (.configuration "Invalid database number")

/-- What one introduces oneself with, decoded; `what` says what it is. -/
def credential (what : String) (text : List Char) : Except Fault (Option String) :=
  match nonEmpty? text with
  | none => .ok none
  | some text =>
    match Text.textOfBytes? (Text.percentBytes (fun _ => true) text) with
    | some decoded => .ok (some decoded)
    | none => .error (.configuration (what ++ " is not valid UTF-8 string"))

/-- The endpoint on a host. -/
def tcpEndpoint (u : UrlParts) : Except Fault Endpoint := do
  let authority ← match u.authority? with
    | some a => if a.host = [] then throw (.configuration "Missing hostname") else pure a
    | none => throw (.configuration "Missing hostname")
  if u.scheme = "rediss" then
    throw (.configuration "can't connect with TLS, the feature is not enabled")
  let isSlash (c : Char) : Bool := c = '/'
  let name := ((u.path.dropWhile isSlash).reverse.dropWhile isSlash).reverse
  let database ← if name = [] then pure 0 else databaseOf name
  let (user, password) := (splitAtFirst ':' authority.info).getD (authority.info, [])
  let user ← credential "Username" user
  let password ← credential "Password" password
  let address := .tcp (String.ofList authority.host) (authority.port?.getD defaultPort)
  return ⟨address, user, password, database⟩

/-- The endpoint on a socket, which is on this host. -/
def socketEndpoint (u : UrlParts) : Except Fault Endpoint := do
  let isLocal := u.authority?.all fun a => a.host = [] || String.ofList a.host = "localhost"
  if !isLocal || u.path.head? ≠ some '/' then throw (.configuration "Missing path")
  let database ← match queryField? u.query "db" with
    | none => pure 0
    | some text => databaseOf text.toList
  let path := String.ofList (Text.decodeWhere (fun _ => true) u.path)
  return ⟨.socket path, queryField? u.query "user", queryField? u.query "pass", database⟩

/-- The endpoint that a connection string names. -/
def Endpoint.ofUrl (url : String) : Except Fault Endpoint :=
  match UrlParts.ofChars? url.toList with
  | none => .error (.configuration "Redis URL did not parse")
  | some u =>
    if u.scheme = "redis" || u.scheme = "rediss" then tcpEndpoint u
    else if u.scheme = "unix" || u.scheme = "redis+unix" then socketEndpoint u
    else .error (.configuration "Redis URL did not parse")

end Passcode.Redis
