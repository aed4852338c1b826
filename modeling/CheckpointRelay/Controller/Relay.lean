import CheckpointRelay.Controller.Call
import CheckpointRelay.Node.Confirm
import CheckpointRelay.Plan.Events

/-!
# The checkpointed batch

A batch for the controller ends with the assertion of a tip: the tip read before, folded with the events that the batch
is predicted to emit in the block that the transaction runs against. If another writer moves the tip first, the
assertion reverts the whole batch, and it is tried again from a fresh tip, up to three times. No other failure is tried
again.
-/

namespace CheckpointRelay

/-- How batches are sent. -/
structure SendSettings extends ConfirmSettings where
  /-- The value attached to a batch, which the controller wants to be zero. -/
  callValue : Int64
  deriving DecidableEq, Repr

/-- One who sends batches to a controller. -/
structure Relayer where
  signer : Signer
  controller : Address
  settings : SendSettings

namespace Relayer

/-- What can go wrong with an operation on the controller. -/
inductive Error
  /-- A sweep names no receivers. -/
  | noSalts
  /-- A batch holds no calls. -/
  | noCalls
  /-- A value is attached to batches. -/
  | callValue (value : Int64)
  /-- Every attempt lost against another writer. -/
  | checkpointExhausted (attempts : Nat)
  /-- The events of the batch cannot be predicted. -/
  | planning (cause : Report)
  /-- What the controller answered is not what it should be. -/
  | read (cause : Abi.DecodeError)
  /-- A transaction was not confirmed, or the node not reached. -/
  | failure (cause : Failure)

/-- The wording of an error. -/
def Error.message : Error → String
  | .noSalts => "configuration error: pullFromReceivers needs at least one receiver salt"
  | .noCalls => "configuration error: multicall needs at least one call"
  | .callValue value =>
    let refusal := "multicall rejects msg.value"
    s!"configuration error: call value must be 0 for controller multicall (got {value.toInt} sun); {refusal}"
  | .checkpointExhausted attempts => s!"event chain checkpoint failed after {attempts} attempts (tip kept changing)"
  | .planning cause => s!"event planning failed: {cause.inline}"
  | .read cause => s!"controller read failed: {cause.message}"
  | .failure cause => cause.message

/-- The error with its causes. -/
def Error.report : Error → Report
  | .failure cause => cause.report
  | e => ⟨e.message, []⟩

/-- A question of an operation: one to the node, or for the events of a batch. -/
inductive Query
  | node (q : Node.Query)
  | plan (controller : Address) (calls : List ControllerCall)

/-- The type of the answer to a question. -/
abbrev Query.Answer : Query → Type
  | .node q => q.Answer
  | .plan _ _ => Except Report (List Event)

/-- A computation that asks a node and a planner, and that can fail. -/
abbrev RelayM (α : Type) := ExceptT Error (Dialogue Query Query.Answer) α

/-- What is asked of the node alone, with its failure as a value. -/
def attemptNode {α : Type} (d : NodeM α) : RelayM (Except Failure α) :=
  ExceptT.mk ((d.run.interpret fun q => Dialogue.question (Query.node q)).bind fun r => .done (.ok r))

/-- What is asked of the node alone. -/
def askNode {α : Type} (d : NodeM α) : RelayM α :=
  ExceptT.mk ((d.run.interpret fun q => Dialogue.question (Query.node q)).bind fun r => .done (r.mapError .failure))

/-- The events that a batch is predicted to emit. -/
def plan (controller : Address) (calls : List ControllerCall) : RelayM (List Event) :=
  ExceptT.mk ((Dialogue.question (Query.plan controller calls)).bind
    fun (r : Except Report (List Event)) => .done (r.mapError .planning))

/-- A result about a transaction. -/
def checked {α : Type} (r : Except Transaction.Error α) : RelayM α :=
  ExceptT.mk (.done (r.mapError fun e => .failure e.toFailure))

/-! ## Reads -/

/-- The call of the controller, from the relayer, with calldata. -/
def controllerCall (r : Relayer) (data : Bytes) : TriggerCall :=
  { owner := r.signer.address.bytes, contract := r.controller.bytes, data := data }

/-- What the controller returns for calldata, as `decode` reads it. -/
def readController {α : Type} (r : Relayer) (data : Bytes) (decode : Bytes → Except Abi.DecodeError α) : RelayM α := do
  let answer ← askNode (Node.constant (r.controllerCall data))
  ExceptT.mk (.done ((decode answer).mapError .read))

/-- The USDT token. -/
def usdt (r : Relayer) : RelayM Address :=
  r.readController (readCall Signature.usdt) (Abi.addressOf · 0)

/-- The head of the event chain. -/
def eventChainTip (r : Relayer) : RelayM Tip :=
  r.readController (readCall Signature.eventChainTip) (Abi.wordOf · 0)

/-- The amount of USDT pulled so far. -/
def pulledUsdt (r : Relayer) : RelayM Uint256 :=
  r.readController (readCall Signature.pulledUsdt) (Abi.uint256Of · 0)

/-- The exchange rate of a token; zero when it has none. -/
def lpExchangeRateFor (r : Relayer) (token : Address) : RelayM Uint256 :=
  r.readController (addressReadCall Signature.lpExchangeRateFor token) (Abi.uint256Of · 0)

/-! ## Writes -/

/-- The text by which the controller's assertion reverts. -/
def tipMismatchMark : String := "Error(\"no\")"

/-- Whether a failure is the revert of the assertion: the only one after which a batch is tried again. -/
def isTipMismatch : Failure → Bool
  | .executionFailed _ message => Text.contains message tipMismatchMark
  | _ => false

/-- The number of attempts to send a batch. -/
def attempts : Nat := 3

/-- How an attempt ends that does not fail. -/
inductive AttemptEnd
  /-- The transaction of this name has succeeded. -/
  | committed (txid : String)
  /-- Another writer moved the tip first. -/
  | tipMoved
  deriving DecidableEq, Repr

/-- The transaction that a batch is built from: the batch alone, without the assertion. -/
def batchCall (r : Relayer) (calls : List ControllerCall) : TriggerCall :=
  { r.controllerCall (Multicall.encode (calls.map ControllerCall.encode)) with callValue := r.settings.callValue }

/-- The built transaction with the assertion at the end of its batch: the tip that the events make of `tip` in the block
of the transaction itself. -/
def withAssertion (calls : List ControllerCall) (tip : Tip) (events : List Event) (built : Transaction) :
    Except Transaction.Error Transaction := do
  let block ← (← built.getRaw).blockRef
  let assertion := ControllerCall.isEventChainTip (EventChain.fold block tip events)
  built.setCallData (Multicall.encode ((calls ++ [assertion]).map ControllerCall.encode))

/-- One attempt to send a batch. -/
def attempt (r : Relayer) (calls : List ControllerCall) : RelayM AttemptEnd := do
  let tip ← r.eventChainTip
  let events ← plan r.controller calls
  let built ← askNode (Node.build (r.batchCall calls) r.settings.feeLimit)
  let transaction ← checked (withAssertion calls tip events built)
  match ← attemptNode (Node.confirm r.settings.toConfirmSettings r.signer transaction) with
  | .ok txid => return .committed txid
  | .error cause => if isTipMismatch cause then return .tipMoved else throw (.failure cause)

/-- Up to `left` attempts to send a batch, the last of `attempts` in all; the result is the name of the transaction that
succeeded. -/
def tryBatch (r : Relayer) (calls : List ControllerCall) : (left : Nat) → RelayM String
  | 0 => throw (.checkpointExhausted attempts)
  | left + 1 => do
    match ← r.attempt calls with
    | .committed txid => return txid
    | .tipMoved => r.tryBatch calls left

/-- Sends a batch, which may be empty, unless a value is attached. -/
def sendCheckpointed (r : Relayer) (calls : List ControllerCall) : RelayM String := do
  if r.settings.callValue ≠ 0 then throw (.callValue r.settings.callValue)
  r.tryBatch calls attempts

/-- Sends a batch of at least one call. -/
def sendBatch (r : Relayer) (calls : List ControllerCall) : RelayM String := do
  if calls = [] then throw .noCalls
  r.sendCheckpointed calls

/-- Sweeps a token from the receivers of salts. -/
def pullFromReceivers (r : Relayer) (token : Address) (salts : List Word) : RelayM String := do
  if salts = [] then throw .noSalts
  r.sendBatch [.pullFromReceivers token salts]

/-- Sends an amount of USDT through a rebalancer. -/
def rebalanceUsdt (r : Relayer) (rebalancer : Address) (amount : Uint256) : RelayM String :=
  r.sendBatch [.rebalanceUsdt rebalancer amount]

/-- Sends the assertion of the tip as it is, and nothing else. -/
def assertTip (r : Relayer) : RelayM String :=
  r.sendCheckpointed []

/-! ## Planning through the node -/

/-- The answer of the node to a question of planning; the controller is the one who asks contracts. -/
def readThroughNode (controller : Address) : (q : Plan.Read) → Dialogue Node.Query Node.Query.Answer q.Answer
  | .contract a calldata =>
    Dialogue.question (Node.Query.constant { owner := controller.bytes, contract := a.bytes, data := calldata })
  | .deployed a => Dialogue.question (Node.Query.deployed a)

/-- The events of a batch, predicted from what the node answers. -/
def planThroughNode (controller : Address) (calls : List ControllerCall) :
    Dialogue Node.Query Node.Query.Answer (Except Report (List Event)) :=
  ((Plan.events controller calls).run.interpret (readThroughNode controller)).bind fun r =>
    .done (r.mapError Plan.Error.report)

/-- An operation in which the planner asks the node as well. -/
def throughNode {α : Type} (d : RelayM α) : Dialogue Node.Query Node.Query.Answer (Except Error α) :=
  d.run.interpret fun
    | .node q => Dialogue.question q
    | .plan controller calls => planThroughNode controller calls

end Relayer

end CheckpointRelay
