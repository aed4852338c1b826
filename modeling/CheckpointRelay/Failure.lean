/-!
# Failures

`Report` is an error as it is told, with the causes beneath it. `Failure` is what can go wrong with a transaction
between its making and its confirmation; only `executionFailed` says that it ran on chain, and `unconfirmed` leaves that
open.
-/

namespace CheckpointRelay

/-- An error and the causes beneath it, nearest first. -/
structure Report where
  /-- What went wrong. -/
  message : String
  /-- Why, each because of the next. -/
  causes : List String := []
  deriving DecidableEq, Repr

namespace Report

/-- The error under a wider account of it. -/
def under (r : Report) (account : String) : Report :=
  ⟨account, r.message :: r.causes⟩

/-- The error and its causes in one line. -/
def inline (r : Report) : String :=
  ": ".intercalate (r.message :: r.causes)

/-- The lines of a cause, each after the first indented by as much as the first. -/
def indented (first later : String) (text : String) : String :=
  first ++ ("\n" ++ later).intercalate (text.splitOn "\n")

/-- The causes, one below the other; several of them are numbered. -/
def causeLines : List String → List String
  | [cause] => [indented "    " "    " cause]
  | causes => causes.zipIdx.map fun (cause, n) =>
    indented (String.ofList (List.replicate (5 - (toString n).length) ' ') ++ s!"{n}: ") "       " cause

/-- The error and its causes in several lines. -/
def multiline (r : Report) : String :=
  if r.causes.isEmpty then r.message
  else "\n".intercalate (r.message :: "" :: "Caused by:" :: causeLines r.causes)

end Report

/-- What can go wrong with a transaction between its making and its confirmation. -/
inductive Failure
  /-- A key is not well-formed. -/
  | invalidKey (reason : String)
  /-- An address is not well-formed. -/
  | invalidAddress (reason : String)
  /-- A transaction lacks what the next step needs. -/
  | malformedTransaction (reason : String)
  /-- The node refused the transaction. -/
  | broadcastRejected (message : String)
  /-- The transaction ran and failed. -/
  | executionFailed (txid message : String)
  /-- There was no outcome within this many lookups, which does not say that there will be none. -/
  | unconfirmed (txid : String) (lookups : Nat)
  /-- The node could not be asked. -/
  | node (cause : Report)
  deriving DecidableEq, Repr

/-- The wording of a failure. -/
def Failure.message : Failure → String
  | .invalidKey reason => s!"invalid private key: {reason}"
  | .invalidAddress reason => s!"invalid Tron address: {reason}"
  | .malformedTransaction reason => s!"malformed transaction: {reason}"
  | .broadcastRejected message => s!"Tron broadcast rejected: {message}"
  | .executionFailed txid message => s!"Tron transaction failed: {message} (txid={txid})"
  | .unconfirmed txid lookups => s!"Tron transaction {txid} not confirmed after {lookups} polls"
  | .node cause => s!"Tron RPC error: {cause.inline}"

/-- The failure with the causes of a node that could not be asked. -/
def Failure.report : Failure → Report
  | .node cause => ⟨(Failure.node cause).message, cause.message :: cause.causes⟩
  | failure => ⟨failure.message, []⟩

end CheckpointRelay
