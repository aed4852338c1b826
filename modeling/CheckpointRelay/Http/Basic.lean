import CheckpointRelay.Failure
import CheckpointRelay.Text.Base64
import CheckpointRelay.Tree.Basic
import CheckpointRelay.Url.Parser

/-!
# Exchanges over HTTP

A request that posts a value, the response, and the faults that keep a response from coming. What is given for a request
may be refused, in which case nothing is sent.
-/

namespace CheckpointRelay.Http

/-! ## Requests -/

/-- A value to be posted. -/
structure Request where
  /-- Where it is posted, without name and password. -/
  url : Url
  headers : List (String × String)
  /-- What is posted, as JSON. -/
  body : Tree
  /-- The time that the exchange may take, in milliseconds. -/
  timeout : Nat

/-- Why there can be no request. -/
inductive Refusal
  /-- There is no address. -/
  | badUrl (cause : UrlError)
  /-- The address has no host, or its scheme is not that of HTTP. -/
  | schemeNotAllowed (url : Url)
  /-- The value of a header holds a control character. -/
  | badHeader
  /-- The address cannot stand in a message. -/
  | unwritable (url : Url)
  deriving DecidableEq, Repr

/-- A refusal with its cause. -/
def Refusal.report : Refusal → Report
  | .badUrl cause => ⟨s!"builder error: {cause.message}", [cause.message]⟩
  | .schemeNotAllowed url =>
    ⟨s!"builder error for url ({url.text}): URL scheme is not allowed", ["URL scheme is not allowed"]⟩
  | .badHeader => ⟨"builder error: failed to parse header value", ["failed to parse header value"]⟩
  | .unwritable url =>
    ⟨s!"builder error for url ({url.text}): Parsed Url is not a valid Uri", ["Parsed Url is not a valid Uri"]⟩

/-- Whether a character may stand in the value of a header. -/
def isHeaderChar (c : Char) : Bool :=
  c = '\t' || (0x20 ≤ c.toNat && c.toNat ≠ 0x7F)

/-- How many characters the address in a message may have. -/
def maxUrlLength : Nat := 65534

/-- Whether an address can stand in a message. -/
def isWritable (url : Url) : Bool :=
  url.text.length ≤ maxUrlLength && (url.host.all fun host => !(host.name.toList.any ("\"`\x7b\x7d".toList.contains)))

/-- The header for a name and a password. -/
def authorization (username : String) (password : Option String) : String × String :=
  ("authorization", "Basic " ++ Base64.encode (Utf8.encode (username ++ ":" ++ password.getD "")))

/-- The request that posts a value to an address, whose name and password become a header. -/
def Request.make (address : String) (headers : List (String × String)) (body : Tree) (timeout : Nat) :
    Except Refusal Request := do
  let url ← (Url.parse address).mapError .badUrl
  if !url.hasHost then throw (.schemeNotAllowed url)
  if !(headers.all fun h => h.2.toList.all isHeaderChar) then throw .badHeader
  let (url, own) := match url.credentials? with
    | some (username, password) => (url.withoutCredentials, [authorization username password])
    | none => (url, [])
  if url.scheme ≠ "http" ∧ url.scheme ≠ "https" then throw (.schemeNotAllowed url)
  if !isWritable url then throw (.unwritable url)
  return { url, headers := own ++ headers, body, timeout }

/-! ## Responses -/

/-- What comes back. -/
structure Response where
  status : Nat
  body : Bytes
  deriving DecidableEq

/-- The statuses that have a name. -/
def statusNames : List (Nat × String) :=
  [(100, "Continue"), (101, "Switching Protocols"), (102, "Processing"), (200, "OK"), (201, "Created"),
    (202, "Accepted"), (203, "Non Authoritative Information"), (204, "No Content"), (205, "Reset Content"),
    (206, "Partial Content"), (207, "Multi-Status"), (208, "Already Reported"), (226, "IM Used"),
    (300, "Multiple Choices"), (301, "Moved Permanently"), (302, "Found"), (303, "See Other"), (304, "Not Modified"),
    (305, "Use Proxy"), (307, "Temporary Redirect"), (308, "Permanent Redirect"), (400, "Bad Request"),
    (401, "Unauthorized"), (402, "Payment Required"), (403, "Forbidden"), (404, "Not Found"),
    (405, "Method Not Allowed"), (406, "Not Acceptable"), (407, "Proxy Authentication Required"),
    (408, "Request Timeout"), (409, "Conflict"), (410, "Gone"), (411, "Length Required"), (412, "Precondition Failed"),
    (413, "Payload Too Large"), (414, "URI Too Long"), (415, "Unsupported Media Type"), (416, "Range Not Satisfiable"),
    (417, "Expectation Failed"), (418, "I'm a teapot"), (421, "Misdirected Request"), (422, "Unprocessable Entity"),
    (423, "Locked"), (424, "Failed Dependency"), (426, "Upgrade Required"), (428, "Precondition Required"),
    (429, "Too Many Requests"), (431, "Request Header Fields Too Large"), (451, "Unavailable For Legal Reasons"),
    (500, "Internal Server Error"), (501, "Not Implemented"), (502, "Bad Gateway"), (503, "Service Unavailable"),
    (504, "Gateway Timeout"), (505, "HTTP Version Not Supported"), (506, "Variant Also Negotiates"),
    (507, "Insufficient Storage"), (508, "Loop Detected"), (510, "Not Extended"),
    (511, "Network Authentication Required")]

/-- The number of a status with its name. -/
def statusText (status : Nat) : String :=
  let name := (statusNames.lookup status).getD "<unknown status code>"
  s!"{status} {name}"

/-- Whether a response is a success. -/
def Response.isSuccess (r : Response) : Bool :=
  200 ≤ r.status && r.status < 300

/-! ## Faults -/

/-- Why there is no response. -/
inductive Fault
  /-- The name of the host stands for no number. -/
  | unresolved (reason : String)
  /-- There is no connection. -/
  | unconnected (reason : String)
  /-- The connection does not last until there is a response. -/
  | broken (reason : String)
  deriving DecidableEq, Repr

/-- A step in making a connection that fails, with its cause. -/
def connecting (step reason : String) : Report :=
  ⟨s!"error trying to connect: {step}: {reason}", [s!"{step}: {reason}", reason]⟩

/-- What is behind a fault. -/
def Fault.cause : Fault → Report
  | .unresolved reason => connecting "dns error" s!"failed to lookup address information: {reason}"
  | .unconnected reason => connecting "tcp connect error" reason
  | .broken reason => ⟨reason, []⟩

/-- A fault in the exchange with an address, with its causes. -/
def Fault.report (url : Url) (fault : Fault) : Report :=
  fault.cause.under s!"error sending request for url ({url.text}): {fault.cause.message}"

end CheckpointRelay.Http
