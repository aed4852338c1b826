import CheckpointRelay.Dialogue
import CheckpointRelay.Failure
import CheckpointRelay.Outcome.Basic
import CheckpointRelay.Transaction.Signing

/-!
# Asking a node

The questions that a full node answers. Each can also fail, with a report of why.
-/

namespace CheckpointRelay

/-- What a node says to a transaction that it is given. -/
structure Receipt where
  accepted : Bool
  /-- Why the transaction is refused; empty when it is accepted or no reason is given. -/
  message : String
  deriving DecidableEq, Inhabited

namespace Node

/-- A question to a node. -/
inductive Query
  /-- What does this call return, without changing anything? -/
  | constant (call : TriggerCall)
  /-- What is an unsigned transaction for this call? -/
  | build (call : TriggerCall) (feeLimit : Int64)
  /-- Is this signed transaction accepted? -/
  | broadcast (transaction : Transaction)
  /-- What came of the transaction of this name? The question is put after a pause in milliseconds. -/
  | outcome (txid : String) (pause : Nat)
  /-- Is there a contract at this address? -/
  | deployed (a : Address)

/-- What a question asks for. There is no outcome as long as the transaction is in no block. -/
abbrev Query.Content : Query → Type
  | .constant _ => Bytes
  | .build _ _ => Transaction
  | .broadcast _ => Receipt
  | .outcome _ _ => Option Outcome
  | .deployed _ => Bool

/-- The type of the answer to a question. -/
abbrev Query.Answer (q : Query) : Type :=
  Except Report q.Content

end Node

/-- A computation that asks a node, and that can fail. -/
abbrev NodeM (α : Type) := ExceptT Failure (Dialogue Node.Query Node.Query.Answer) α

namespace NodeM

/-- The answer to a question, or the failure to get one. -/
def answered {α : Type} (d : Dialogue Node.Query Node.Query.Answer (Except Report α)) : NodeM α :=
  ExceptT.mk (d.bind fun r => .done (r.mapError .node))

/-- A result about a transaction. -/
def checked {α : Type} (r : Except Transaction.Error α) : NodeM α :=
  ExceptT.mk (.done (r.mapError Transaction.Error.toFailure))

end NodeM

namespace Node

/-- What a call returns. -/
def constant (call : TriggerCall) : NodeM Bytes :=
  NodeM.answered (Dialogue.question (Query.constant call))

/-- An unsigned transaction for a call. -/
def build (call : TriggerCall) (feeLimit : Int64) : NodeM Transaction :=
  NodeM.answered (Dialogue.question (Query.build call feeLimit))

/-- What the node says to a signed transaction. -/
def broadcast (transaction : Transaction) : NodeM Receipt :=
  NodeM.answered (Dialogue.question (Query.broadcast transaction))

/-- What came of a transaction, asked after a pause. -/
def outcome (txid : String) (pause : Nat) : NodeM (Option Outcome) :=
  NodeM.answered (Dialogue.question (Query.outcome txid pause))

end Node

end CheckpointRelay
