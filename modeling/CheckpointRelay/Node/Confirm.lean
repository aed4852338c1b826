import CheckpointRelay.Node.Query
import CheckpointRelay.Outcome.Diagnosis

/-!
# Sending and confirming

A transaction is given its fee limit, signed and sent once. After that the node is only asked for the outcome, until
there is one or the lookups are used up: in that case nothing is known about the transaction.
-/

namespace CheckpointRelay

/-- How a transaction is sent and how long its outcome is awaited. -/
structure ConfirmSettings where
  feeLimit : Int64
  /-- The number of lookups before giving up. -/
  lookups : UInt32
  /-- The pause between two lookups in milliseconds. -/
  pause : UInt64
  deriving DecidableEq, Repr

namespace Node

/-- Asks for the outcome of a transaction up to `left` times, the first time after `firstPause` milliseconds, and gives
up after `total` lookups in all. -/
def await (txid : String) (total pause : Nat) (firstPause : Nat) : (left : Nat) → NodeM Unit
  | 0 => throw (.unconfirmed txid total)
  | left + 1 => do
    match ← outcome txid firstPause with
    | none => await txid total pause pause left
    | some found => if found.isFailed then throw (.executionFailed txid found.describe) else return ()

/-- Waits until a transaction has succeeded. -/
def waitFor (settings : ConfirmSettings) (txid : String) : NodeM Unit :=
  await txid settings.lookups.toNat settings.pause.toNat 0 settings.lookups.toNat

/-- The transaction as it is sent, and its name. -/
def prepare (settings : ConfirmSettings) (signer : Signer) (transaction : Transaction) :
    Except Transaction.Error (Transaction × String) := do
  if settings.feeLimit < 0 then throw (.negativeFeeLimit settings.feeLimit)
  signer.signTransaction (← transaction.setFeeLimit settings.feeLimit)

/-- The failure of a transaction that the node refuses. -/
def rejection (receipt : Receipt) : Failure :=
  .broadcastRejected (if receipt.message = "" then "unknown" else receipt.message)

/-- Signs and sends a transaction and waits until it has succeeded; the result is its name. -/
def confirm (settings : ConfirmSettings) (signer : Signer) (transaction : Transaction) : NodeM String := do
  let (signed, txid) ← NodeM.checked (prepare settings signer transaction)
  let receipt ← broadcast signed
  if receipt.accepted then
    waitFor settings txid
    return txid
  else throw (rejection receipt)

end Node

end CheckpointRelay
