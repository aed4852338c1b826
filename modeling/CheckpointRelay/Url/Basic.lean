import CheckpointRelay.Url.Host

/-!
# Addresses of resources

The parts of a URL, and the text that they make. Special schemes are those of the web, whose addresses always have a
host, and that of files.
-/

namespace CheckpointRelay

/-- What kind of scheme an address has. -/
inductive SchemeKind
  /-- A scheme of the web. -/
  | web
  | file
  | other
  deriving DecidableEq, Repr

/-- The kind of a scheme. -/
def SchemeKind.ofName (scheme : String) : SchemeKind :=
  if scheme ∈ ["http", "https", "ws", "wss", "ftp"] then .web else if scheme = "file" then .file else .other

/-- The number of the port that a scheme stands for. -/
def defaultPort? : String → Option Nat
  | "http" | "ws" => some 80
  | "https" | "wss" => some 443
  | "ftp" => some 21
  | _ => none

/-- The path of an address. -/
inductive UrlPath
  /-- Segments, with a slash in front of each. -/
  | rooted (segments : List String)
  /-- A text that does not start with a slash. -/
  | bare (text : String)
  deriving DecidableEq, Repr

/-- The text of a path. -/
def UrlPath.text : UrlPath → String
  | .rooted segments => String.join (segments.map ("/" ++ ·))
  | .bare text => text

/-- An address. -/
structure Url where
  scheme : String
  username : String := ""
  password : Option String := none
  host : Option Host := none
  /-- The port, unless it is the one of the scheme. -/
  port : Option UInt16 := none
  path : UrlPath
  query : Option String := none
  fragment : Option String := none
  deriving DecidableEq, Repr

namespace Url

/-- Whether there is a host with a name or a number. -/
def hasHost (u : Url) : Bool :=
  u.host.any (· ≠ .domain "")

/-- The name and the password in front of the host. -/
def credentialsText (u : Url) : String :=
  let password := (u.password.map (":" ++ ·)).getD ""
  if u.username = "" ∧ u.password = none then "" else u.username ++ password ++ "@"

/-- The host with its port. -/
def placeText (u : Url) : String :=
  ((u.host.map Host.text).getD "") ++ (u.port.map fun n => s!":{n}").getD ""

/-- What stands between the scheme and the path. A path that starts with two slashes is kept from looking like a
host. -/
def authorityText (u : Url) : String :=
  match u.host, u.path with
  | some _, _ => "//" ++ u.credentialsText ++ u.placeText
  | none, .rooted ("" :: _ :: _) => "/."
  | none, _ => ""

/-- The path and the query, which are what a server is asked for. -/
def resourceText (u : Url) : String :=
  u.path.text ++ (u.query.map ("?" ++ ·)).getD ""

/-- The text of an address. -/
def text (u : Url) : String :=
  u.scheme ++ ":" ++ u.authorityText ++ u.resourceText ++ (u.fragment.map ("#" ++ ·)).getD ""

/-- The name and the password with their octets restored, if the name is text; a password that is not is left out. -/
def credentials? (u : Url) : Option (String × Option String) := do
  let plain (s : String) : Option String := (Utf8.decode (Percent.decode (Utf8.encode s))).toOption
  let username ← plain u.username
  let password := u.password >>= plain
  if username = "" ∧ password = none then none else some (username, password)

/-- The address without name and password. -/
def withoutCredentials (u : Url) : Url :=
  { u with username := "", password := none }

end Url

end CheckpointRelay
