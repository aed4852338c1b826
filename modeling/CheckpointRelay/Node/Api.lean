import CheckpointRelay.Json.Parser
import CheckpointRelay.Node.Query
import CheckpointRelay.Outcome.Diagnosis
import CheckpointRelay.Outside

/-!
# The HTTP interface of a node

Each question to a node is one exchange: `Endpoint.request` is what is posted, if it can be sent, and `Query.read` is
what the reply says. A reply counts only if its status is a success, it is JSON, and it names no error; a read counts
only if the call succeeded and did not revert.
-/

namespace CheckpointRelay.Node

/-- Where and how a node is reached. -/
structure Endpoint where
  /-- The address, without a slash at its end. -/
  base : String
  /-- The key that is shown to the node. -/
  apiKey : Option String
  /-- The time that an exchange may take, in milliseconds. -/
  timeout : Nat
  deriving DecidableEq, Repr

/-- The endpoint at an address that may end with slashes. -/
def Endpoint.ofUrl (url : String) (apiKey : Option String) (timeout : Nat) : Endpoint :=
  ⟨String.ofList (url.toList.reverse.dropWhile (· = '/')).reverse, apiKey, timeout⟩

/-- The header for the key. -/
def apiKeyHeader : String := "TRON-PRO-API-KEY"

/-! ## Requests -/

/-- The method of the interface that answers a question. -/
def Query.method : Query → String
  | .constant _ => "triggerconstantcontract"
  | .build _ _ => "triggersmartcontract"
  | .broadcast _ => "broadcasthex"
  | .outcome _ _ => "gettransactioninfobyid"
  | .deployed _ => "getcontract"

/-- A text of hexadecimal digits. -/
def hexTree (b : Bytes) : Tree :=
  .text (Hex.encode b)

/-- The members that describe a call. -/
def callMembers (c : TriggerCall) : List (String × Tree) :=
  [("owner_address", hexTree c.owner), ("contract_address", hexTree c.contract), ("data", hexTree c.data),
    ("call_value", .integer c.callValue.toInt), ("visible", .bool false)]

/-- What is posted for a question. -/
def Query.body : Query → Tree
  | .constant call => .table (callMembers call)
  | .build call feeLimit => .table (callMembers call ++ [("fee_limit", .integer feeLimit.toInt)])
  | .broadcast transaction => .table [("transaction", hexTree transaction.encode)]
  | .outcome txid _ => .table [("value", .text txid)]
  | .deployed a => .table [("value", .text a.hex), ("visible", .bool false)]

/-- The address of the method that answers a question. -/
def Endpoint.url (e : Endpoint) (q : Query) : String :=
  e.base ++ "/wallet/" ++ q.method

/-- The request that puts a question, if it can be sent. -/
def Endpoint.request (e : Endpoint) (q : Query) : Except Http.Refusal Http.Request :=
  Http.Request.make (e.url q) (e.apiKey.map (apiKeyHeader, ·)).toList q.body e.timeout

/-! ## Replies -/

/-- Why a question has no answer. -/
inductive ReplyError
  /-- There is no request. -/
  | unsendable (url : String) (refusal : Http.Refusal)
  /-- There is no response. -/
  | unanswered (url : String) (request : Http.Request) (fault : Http.Fault)
  /-- The status is no success. -/
  | status (url : String) (number : Nat) (body : String)
  /-- The body is not JSON. -/
  | notJson (url : String) (cause : Json.Error)
  /-- The node names an error. -/
  | refused (url message : String)
  /-- The call was not carried out. -/
  | callFailed (method code message : String)
  /-- There is no transaction in the reply. -/
  | noRawData
  /-- The transaction in the reply is not well-formed. -/
  | badRawData (cause : Transaction.Error)
  /-- What the call returned is not hexadecimal. -/
  | notHex (cause : Hex.Error)
  /-- The call reverted. -/
  | reverted (contract : Bytes) (reason : String)
  /-- The record of the outcome is not well-formed. -/
  | badOutcome

/-- The error with its causes. -/
def ReplyError.report : ReplyError → Report
  | .unsendable url refusal => refusal.report.under s!"Failed to send request to {url}"
  | .unanswered url request fault => (fault.report request.url).under s!"Failed to send request to {url}"
  | .status url number body => ⟨s!"HTTP {Http.statusText number} from {url}: {body}", []⟩
  | .notJson url cause =>
    ⟨s!"Failed to parse response from {url}", [s!"error decoding response body: {cause.message}", cause.message]⟩
  | .refused url message => ⟨s!"Tron node error from {url}: {message}", []⟩
  | .callFailed method code message => ⟨s!"Tron {method} failed: {code} {message}", []⟩
  | .noRawData => ⟨"triggersmartcontract response has no transaction.raw_data_hex", []⟩
  | .badRawData cause => cause.toFailure.report
  | .notHex cause => ⟨"Invalid hex in constant_result", [cause.message]⟩
  | .reverted contract reason => ⟨s!"Constant call to {Hex.encode contract} reverted: {reason}", []⟩
  | .badOutcome => ⟨"Failed to parse transaction info", []⟩

/-- The value that a response carries. -/
def readResponse (url : String) (r : Http.Response) : Except ReplyError Tree := do
  if !r.isSuccess then throw (.status url r.status (Utf8.decodeLossy r.body))
  let v ← (Json.parseBytes r.body).mapError (.notJson url)
  match v.get? "Error" with
  | some (.text message) => throw (.refused url message)
  | _ => return v

/-- The text of a member, if it is there and a text. -/
def memberText? (name : String) (t : Tree) : Option String :=
  t.get? name >>= Tree.text?

/-- The text of a member of hexadecimal digits; empty if it is not there. -/
def memberHexText (name : String) (t : Tree) : String :=
  ((memberText? name t).map hexText).getD ""

/-- The first item of a list. -/
def first? (t : Tree) : Option Tree :=
  t.list? >>= List.head?

/-- Whether the reply to a call says that it was carried out. -/
def isCarriedOut (v : Tree) : Bool :=
  ((v.get? "result" >>= Tree.get? "result") >>= Tree.bool?).getD false

/-- The reply to a call, unless it was not carried out. -/
def checkCall (method : String) (v : Tree) : Except ReplyError Unit :=
  if isCarriedOut v then .ok ()
  else
    let result := (v.get? "result").getD .null
    .error (.callFailed method ((memberText? "code" result).getD "UNKNOWN") (memberHexText "message" result))

/-- Whether the reply to a call says that it reverted. -/
def isReverted (v : Tree) : Bool :=
  (((v.get? "transaction" >>= Tree.get? "ret") >>= first?) >>= memberText? "ret") = some "FAILED"

/-- What a call returned. -/
def readReturned (call : TriggerCall) (v : Tree) : Except ReplyError Bytes := do
  checkCall (Query.constant call).method v
  let data ← match (v.get? "constant_result" >>= first?) >>= Tree.text? with
    | none => pure []
    | some digits => (Hex.decode digits).mapError .notHex
  if isReverted v then throw (.reverted call.contract ((Revert.describe? data).getD ("0x" ++ Hex.encode data)))
  return data

/-- The transaction that was built. -/
def readBuilt (method : String) (v : Tree) : Except ReplyError Transaction := do
  checkCall method v
  match v.get? "transaction" >>= memberText? "raw_data_hex" with
  | none => throw .noRawData
  | some digits => (Transaction.ofRawHex digits).mapError .badRawData

/-- What the node says to a transaction. Where it refuses without a message, its code stands for one. -/
def readReceipt (v : Tree) : Receipt :=
  let accepted := (v.get? "result" >>= Tree.bool?).getD false
  let message := memberHexText "message" v
  match memberText? "code" v with
  | some code => ⟨accepted, if !accepted && message = "" then code else message⟩
  | none => ⟨accepted, message⟩

/-- What came of a transaction; the table is empty as long as there is nothing to tell. -/
def readOutcome (v : Tree) : Except ReplyError (Option Outcome) :=
  match v with
  | .table (m :: ms) =>
    match Outcome.ofTree? (.table (m :: ms)) with
    | some o => .ok (some o)
    | none => .error .badOutcome
  | _ => .ok none

/-- Whether the node describes a contract. -/
def readDeployed (v : Tree) : Bool :=
  (v.get? "contract_address").isSome || (v.get? "bytecode").isSome

/-- The answer to a question in the value of a reply. -/
def Query.read : (q : Query) → Tree → Except ReplyError q.Content
  | .constant call, v => readReturned call v
  | .build call feeLimit, v => readBuilt (Query.build call feeLimit).method v
  | .broadcast _, v => .ok (readReceipt v)
  | .outcome _ _, v => readOutcome v
  | .deployed _, v => .ok (readDeployed v)

/-- The answer to a question in the response to its request. -/
def Endpoint.readReply (e : Endpoint) (q : Query) (r : Http.Response) : Except ReplyError q.Content := do
  q.read (← readResponse (e.url q) r)

/-! ## Exchanges -/

/-- The pause before a question is put. -/
def Query.pauseBefore : Query → Nat
  | .outcome _ pause => pause
  | _ => 0

/-- The answer to a question, after its pause and at most one exchange. -/
def Endpoint.ask (e : Endpoint) (q : Query) : OutsideM (Except ReplyError q.Content) := do
  Outside.sleep q.pauseBefore
  match e.request q with
  | .error refusal => return .error (.unsendable (e.url q) refusal)
  | .ok request =>
    match ← Outside.send request with
    | .error fault => return .error (.unanswered (e.url q) request fault)
    | .ok response => return e.readReply q response

/-- The computation with its questions put to the node at an endpoint. -/
def Endpoint.connect {α : Type} (e : Endpoint) (d : Dialogue Query Query.Answer α) : OutsideM α :=
  d.interpret fun q => (e.ask q).bind fun r => .done (r.mapError ReplyError.report)

end CheckpointRelay.Node
