import CheckpointRelay.Url.Basic

/-!
# Reading addresses

An address is read from the outside in: its scheme, then what stands behind `#` and `?`, then the host with what belongs
to it, and last the path, in which segments of one or two dots are followed. Characters that a part may not hold are put
in percent form. Tabs and line ends do not count; only where a path of files starts with the letter of a drive do they
divide it from what follows.
-/

namespace CheckpointRelay.Url

open Text

/-- Whether a character counts nothing at either end of an address. -/
def isEdge (c : Char) : Bool :=
  c.toNat ≤ 0x20

/-- An address without what counts nothing at its ends. -/
def trimmed (cs : List Char) : List Char :=
  ((cs.dropWhile isEdge).reverse.dropWhile isEdge).reverse

/-- Whether a character is a tab or ends a line. -/
def isBreak (c : Char) : Bool :=
  c = '\t' || c = '\n' || c = '\r'

/-- The characters without tabs and line ends. -/
def unbroken (cs : List Char) : List Char :=
  cs.filter fun c => !isBreak c

/-- The scheme, in lower case, and what follows its colon. -/
def splitScheme? (cs : List Char) : Option (String × List Char) :=
  match cut [':'] cs with
  | (front, some rest) =>
    match unbroken front with
    | first :: later =>
      if first.isAlpha && later.all (fun c => c.isAlpha || isDigit c || c = '+' || c = '-' || c = '.') then
        some (String.ofList ((first :: later).map lower), rest)
      else none
    | [] => none
  | (_, none) => none

/-! ## Paths -/

/-- Whether a character separates segments; backslashes do where the scheme is special. -/
def isSlash (kind : SchemeKind) (c : Char) : Bool :=
  c = '/' || (c = '\\' && kind ≠ .other)

/-- Whether a segment means the one that it stands in. -/
def isDot (segment : List Char) : Bool :=
  segment.map lower ∈ [".".toList, "%2e".toList]

/-- Whether a segment means the one above. -/
def isDoubleDot (segment : List Char) : Bool :=
  segment.map lower ∈ ["..".toList, ".%2e".toList, "%2e.".toList, "%2e%2e".toList]

/-- Whether a segment starts with the letter of a drive: with a letter and a mark, and with a backslash behind them if
anything is. -/
def startsWithDrive : List Char → Bool
  | letter :: mark :: rest => letter.isAlpha && (mark = ':' || mark = '|') && (rest = [] || rest.head? = some '\\')
  | _ => false

/-- Whether a segment is the letter of a drive. -/
def isDrive (segment : List Char) : Bool :=
  startsWithDrive segment && segment.length = 2

/-- The path without its last segment, which stays if it starts with the letter of a drive. -/
def shorten (path : List String) : List String :=
  if path.getLast?.any (startsWithDrive ·.toList) then path else path.dropLast

/-- The text of a segment. -/
def segmentText (segment : List Char) : String :=
  String.ofList (Percent.encode Percent.pathSet segment)

/-- A path as far as it is read. -/
structure Steps where
  segments : List String := []
  /-- Whether the first segment is the letter of a drive, which takes the place of a host. -/
  onDrive : Bool := false

namespace Steps

/-- A path with more segments. -/
def add (s : Steps) (segments : List (List Char)) : Steps :=
  { s with segments := s.segments ++ segments.map segmentText }

/-- Whether a tab or a line end stands behind the first colon. -/
def isDivided (segment : List Char) : Bool :=
  ((segment.dropWhile (· ≠ ':')).drop 1).head?.any isBreak

/-- A path with one more segment. Where the path is one of files, the letter of a drive that comes first has a colon,
and is a segment of its own if a tab or a line end divides it from what follows. -/
def place (kind : SchemeKind) (s : Steps) (segment : List Char) : Steps :=
  let plain := unbroken segment
  if kind ≠ .file ∨ s.segments ≠ [] then s.add [plain]
  else if isDrive plain then { segments := [String.ofList (plain.take 1 ++ [':'])], onDrive := true }
  else if isDrive (plain.take 2) && plain[1]? = some ':' && isDivided segment then s.add [plain.take 2, plain.drop 2]
  else s.add [plain]

/-- The path that segments lead to from another. A dot, or two, at the end lead to a place with an empty name. -/
def follow (kind : SchemeKind) (s : Steps) : List (List Char) → Steps
  | [] => s
  | segment :: rest =>
    let ending : List String := if rest = [] then [""] else []
    if isDoubleDot (unbroken segment) then follow kind { s with segments := shorten s.segments ++ ending } rest
    else if isDot (unbroken segment) then follow kind { s with segments := s.segments ++ ending } rest
    else follow kind (s.place kind segment) rest

end Steps

/-- The path that characters behind a slash lead to. -/
def steps (kind : SchemeKind) (cs : List Char) : Steps :=
  Steps.follow kind {} (parts (isSlash kind) cs)

/-- The path behind a host. It is never empty where the scheme is special. -/
def pathBehindHost (kind : SchemeKind) (cs : List Char) : UrlPath :=
  match cs with
  | [] => .rooted (if kind = .other then [] else [""])
  | c :: rest => .rooted (steps kind (if isSlash kind c then rest else c :: rest)).segments

/-! ## Hosts -/

/-- The name and the password that characters in front of a host write; a password is not empty. -/
def readCredentials (cs : List Char) : String × Option String :=
  let shown (cs : List Char) : String := String.ofList (Percent.encode Percent.userSet cs)
  match cut [':'] cs with
  | (name, some (c :: later)) => (shown name, some (shown (c :: later)))
  | (name, _) => (shown name, none)

/-- What stands in front of the last `@`, if there is one, and what follows it. -/
def splitCredentials (cs : List Char) : Option (List Char) × List Char :=
  match cut ['@'] cs.reverse with
  | (back, some front) => (some front.reverse, back.reverse)
  | (_, none) => (none, cs)

/-- The host and what follows its colon, if there is one. Colons between brackets belong to the host. -/
def splitPort (inside : Bool) : List Char → List Char × Option (List Char)
  | [] => ([], none)
  | c :: rest =>
    if c = ':' ∧ !inside then ([], some rest)
    else
      let (host, port) := splitPort (c = '[' || (inside && c ≠ ']')) rest
      (c :: host, port)

/-- The port that digits write, unless it is the one of the scheme, and what follows them, which starts with a
backslash. -/
def readPort (scheme : String) (cs : List Char) : Except UrlError (Option UInt16 × List Char) :=
  let digits := cs.takeWhile isDigit
  let rest := cs.dropWhile isDigit
  let n := numberOf 10 digits
  if UInt16.size ≤ n ∨ (rest ≠ [] ∧ rest.head? ≠ some '\\') then .error .badPort
  else .ok (if digits = [] ∨ defaultPort? scheme = some n then none else some (UInt16.ofNat n), rest)

/-- The address with a host that the characters behind two slashes write. -/
def readBehindSlashes (scheme : String) (kind : SchemeKind) (cs : List Char) : Except UrlError Url := do
  let authority := cs.takeWhile fun c => !isSlash kind c
  let path := cs.drop authority.length
  let (credentials, place) := splitCredentials authority
  if credentials = some [] ∧ place = [] then throw .emptyHost
  let (username, password) := readCredentials (credentials.getD [])
  let (name, port) := splitPort false place
  if name = [] ∧ (kind = .web ∨ port.isSome ∨ username ≠ "" ∨ password.isSome) then throw .emptyHost
  let host ← if kind = .web then Host.ofSpecial name else Host.ofOther name
  let (port, rest) ← match port with
    | some digits => readPort scheme digits
    | none => pure (none, [])
  return { scheme, username, password, host, port, path := pathBehindHost kind (rest ++ path) }

/-- What follows a slash, if one comes first. -/
def behindSlash? (cs : List Char) : Option (List Char) :=
  match cs.dropWhile isBreak with
  | [] => none
  | c :: rest => if isSlash .file c then some rest else none

/-- The address of a file. Empty segments in front do not count, and the letter of a drive takes the place of the
host. -/
def fileUrl (scheme : String) (host : Host) (path : List Char) : Url :=
  let found := steps .file path
  let segments := found.segments.dropWhile (· = "")
  { scheme, host := some (if found.onDrive then .domain "" else host),
    path := .rooted (if segments = [] then [""] else segments) }

/-- The address of a file that the characters behind two slashes write. What comes first is a host, unless it is the
letter of a drive. The host of this machine is none, and the slash behind one that is none is in front of an empty
segment. -/
def readFileBehindSlashes (scheme : String) (cs : List Char) : Except UrlError Url := do
  let (name, path) := cs.span fun c => !isSlash .file c
  let name := unbroken name
  if isDrive name then return fileUrl scheme (.domain "") cs
  let host ← if name = [] then pure (.domain "") else Host.ofSpecial name
  if host = .domain "" ∨ host = .domain "localhost" then return fileUrl scheme (.domain "") path
  else return fileUrl scheme host (path.drop 1)

/-- The address of a file that the characters behind the scheme write. -/
def readFile (scheme : String) (cs : List Char) : Except UrlError Url :=
  match behindSlash? cs with
  | none => .ok (fileUrl scheme (.domain "") cs)
  | some rest =>
    match behindSlash? rest with
    | none => .ok (fileUrl scheme (.domain "") rest)
    | some behind => readFileBehindSlashes scheme behind

/-- The address that the characters behind a scheme write, without query and fragment. -/
def readBehindScheme (scheme : String) (cs : List Char) : Except UrlError Url :=
  match SchemeKind.ofName scheme, unbroken cs with
  | .web, plain => readBehindSlashes scheme .web (plain.dropWhile (isSlash .web))
  | .file, _ => readFile scheme cs
  | .other, '/' :: '/' :: rest => readBehindSlashes scheme .other rest
  | .other, '/' :: rest => .ok { scheme, path := .rooted (steps .other rest).segments }
  | .other, plain => .ok { scheme, path := .bare (String.ofList (Percent.encode [] plain)) }

/-- The address that a text writes. -/
def parse (s : String) : Except UrlError Url :=
  match splitScheme? (trimmed s.toList) with
  | none => .error .relative
  | some (scheme, cs) => do
    let (cs, fragment) := cut ['#'] cs
    let (cs, query) := cut ['?'] cs
    let url ← readBehindScheme scheme cs
    let querySet := if SchemeKind.ofName scheme = .other then Percent.querySet else '\'' :: Percent.querySet
    return { url with
      query := query.map fun q => String.ofList (Percent.encode querySet (unbroken q))
      fragment := fragment.map fun f => String.ofList (Percent.encode Percent.fragmentSet (unbroken f)) }

end CheckpointRelay.Url
