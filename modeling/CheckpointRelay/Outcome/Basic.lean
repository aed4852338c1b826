import CheckpointRelay.Text.Hex
import CheckpointRelay.Tree.Basic

/-!
# Outcomes of transactions

What a node tells about a transaction that is in a block: whether it failed, what the call returned, and the
transactions that it made inside. Byte strings stay hexadecimal, as the node writes them.
-/

namespace CheckpointRelay

/-- The text of hexadecimal digits, with U+FFFD for ill-formed parts, and the digits themselves if they are none. -/
def hexText (digits : String) : String :=
  match Hex.decode digits with
  | .ok octets => Utf8.decodeLossy octets
  | .error _ => digits

/-- A transaction made inside another. -/
structure InternalTransaction where
  hash : String := ""
  caller : String := ""
  recipient : String := ""
  note : String := ""
  rejected : Bool := false
  extra : String := ""
  deriving DecidableEq, Inhabited

namespace InternalTransaction

/-- The text of the note. -/
def noteText (t : InternalTransaction) : String :=
  hexText t.note

/-- The names of the fields, in the order of a list that stands for them. -/
def fieldNames : List String :=
  ["hash", "caller_address", "transferTo_address", "note", "rejected", "extra"]

/-- The record that a value writes; absent fields are empty. -/
def ofTree? (t : Tree) : Option InternalTransaction := do
  match ← t.fields? .refused fieldNames with
  | [hash, caller, recipient, note, rejected, extra] =>
    return {
      hash := ← Tree.withDefault "" Tree.text? hash
      caller := ← Tree.withDefault "" Tree.text? caller
      recipient := ← Tree.withDefault "" Tree.text? recipient
      note := ← Tree.withDefault "" Tree.text? note
      rejected := ← Tree.withDefault false Tree.bool? rejected
      extra := ← Tree.withDefault "" Tree.text? extra }
  | _ => none

/-- The record as a table of all its fields. -/
def toTree (t : InternalTransaction) : Tree :=
  .table [("hash", .text t.hash), ("caller_address", .text t.caller), ("transferTo_address", .text t.recipient),
    ("note", .text t.note), ("rejected", .bool t.rejected), ("extra", .text t.extra)]

end InternalTransaction

/-- What a node tells about a transaction that is in a block. -/
structure Outcome where
  id : String := ""
  blockNumber : UInt64 := 0
  blockTimestamp : UInt64 := 0
  contractResult : List String := []
  /-- The word `FAILED` for a failed transaction, and absent for others. -/
  result : Option String := none
  message : Option String := none
  internal : List InternalTransaction := []
  deriving DecidableEq, Inhabited

namespace Outcome

/-- Whether the transaction failed. -/
def isFailed (o : Outcome) : Bool :=
  o.result = some "FAILED"

/-- What the call returned, or what it reverted with; nothing if that is not hexadecimal. -/
def returnData (o : Outcome) : Bytes :=
  match o.contractResult with
  | [] => []
  | first :: _ => (Hex.decode first).toOption.getD []

/-- The text of the node's message, if there is one that is not empty. -/
def messageText? (o : Outcome) : Option String :=
  match o.message with
  | none => none
  | some digits => if digits = "" then none else some (hexText digits)

/-- The names of the fields, in the order of a list that stands for them. -/
def fieldNames : List String :=
  ["id", "blockNumber", "blockTimeStamp", "contractResult", "result", "resMessage", "internal_transactions"]

/-- The record that a value writes; absent fields are empty, and only the failure and the message may be null. -/
def ofTree? (t : Tree) : Option Outcome := do
  match ← t.fields? .refused fieldNames with
  | [id, blockNumber, blockTimestamp, contractResult, result, message, internal] =>
    return {
      id := ← Tree.withDefault "" Tree.text? id
      blockNumber := ← Tree.withDefault 0 Tree.uint64? blockNumber
      blockTimestamp := ← Tree.withDefault 0 Tree.uint64? blockTimestamp
      contractResult := ← Tree.withDefault [] (Tree.listOf? Tree.text?) contractResult
      result := ← Tree.optional Tree.text? result
      message := ← Tree.optional Tree.text? message
      internal := ← Tree.withDefault [] (Tree.listOf? InternalTransaction.ofTree?) internal }
  | _ => none

/-- A member for a field that is left out when absent. -/
def optionalMember (name : String) : Option String → List (String × Tree)
  | none => []
  | some s => [(name, .text s)]

/-- The record as a table. -/
def toTree (o : Outcome) : Tree :=
  .table ([("id", .text o.id), ("blockNumber", .integer o.blockNumber.toNat),
      ("blockTimeStamp", .integer o.blockTimestamp.toNat),
      ("contractResult", .list (o.contractResult.map .text))] ++ optionalMember "result" o.result ++
    optionalMember "resMessage" o.message ++
    [("internal_transactions", .list (o.internal.map InternalTransaction.toTree))])

end Outcome

end CheckpointRelay
