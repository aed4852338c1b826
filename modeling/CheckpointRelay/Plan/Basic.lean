import CheckpointRelay.Controller.Call
import CheckpointRelay.Dialogue
import CheckpointRelay.Failure

/-!
# What planning reads and what can stop it

Planning predicts the events of a batch. It reads contracts and asks which addresses hold one, and remembers the
answers, so that nothing is read twice in one plan.
-/

namespace CheckpointRelay.Plan

/-- A question of planning. -/
inductive Read
  /-- What does a contract return for calldata? -/
  | contract (a : Address) (calldata : Bytes)
  /-- Is there a contract at this address? -/
  | deployed (a : Address)
  deriving DecidableEq

/-- The type of the answer to a question. -/
abbrev Read.Answer : Read → Type
  | .contract _ _ => Except Report Bytes
  | .deployed _ => Except Report Bool

/-- Why the events of a call cannot be predicted. -/
inductive Cause
  /-- A read failed. -/
  | read (cause : Report)
  /-- What was read is not what it should be. -/
  | decode (cause : Abi.DecodeError)
  /-- A sweep names no receivers. -/
  | noSalts
  /-- A token has no exchange rate. -/
  | noRate (token : Address)
  /-- The receivers of salts could not be read. -/
  | predict (cause : Report)
  /-- There are more or fewer receivers than salts. -/
  | predictionCount (got asked : Nat)
  /-- A salt has no receiver. Prediction gives one to each salt before the salt is used. -/
  | noReceiver (salt : Word)
  /-- The worth of a sweep needs more than 256 bits. -/
  | amountOverflow
  /-- A rebalancer has no route. -/
  | noRoute (rebalancer : Address)
  /-- The route of a rebalancer is of an unknown kind. -/
  | unsupportedRoute (cause : Abi.DecodeError)
  /-- The fee of a route is in parts of zero. -/
  | zeroDenominator (oft : Address)
  /-- The fee of an amount needs more than 256 bits. -/
  | feeOverflow
  /-- The fee of an amount is more than the amount. -/
  | feeExceedsAmount (oft : Address) (fee amount feeBps denominator : Uint256)

/-- The cause as a report. -/
def Cause.report : Cause → Report
  | .read cause => cause
  | .decode cause => ⟨cause.message, []⟩
  | .noSalts => ⟨"missing receiver salts", []⟩
  | .noRate token => ⟨s!"LP exchange rate not set for {token} (lpExchangeRateFor == 0)", []⟩
  | .predict cause => cause.under "Failed to predict receiver addresses"
  | .predictionCount got asked => ⟨s!"controller multicall returned {got} results for {asked} receiver salts", []⟩
  | .noReceiver salt => ⟨s!"no receiver for salt 0x{Hex.encode salt.bytes}", []⟩
  | .amountOverflow => ⟨"usdt amount overflows uint256", []⟩
  | .noRoute rebalancer => ⟨s!"rebalance route not set for {rebalancer} (payloadFor empty)", []⟩
  | .unsupportedRoute cause =>
    ⟨"unsupported rebalance payload (expected (address oft, uint32, bytes32))", [cause.message]⟩
  | .zeroDenominator oft => ⟨s!"OFT {oft} BPS_DENOMINATOR returned 0", []⟩
  | .feeOverflow => ⟨"rebalance fee overflows uint256", []⟩
  | .feeExceedsAmount oft fee amount feeBps denominator =>
    let fees := s!"(feeBps {feeBps.decimal} > BPS_DENOMINATOR {denominator.decimal})"
    ⟨s!"OFT {oft} fee {fee.decimal} exceeds rebalance amount {amount.decimal} {fees}", []⟩

/-- Why the events of a batch cannot be predicted. -/
inductive Error
  /-- The USDT token could not be read. -/
  | readUsdt (cause : Report)
  /-- What was read as the USDT token is no address. -/
  | decodeUsdt (cause : Abi.DecodeError)
  /-- A call of the batch has no prediction. -/
  | call (name : String) (cause : Cause)

/-- The error as a report. -/
def Error.report : Error → Report
  | .readUsdt cause => cause.under "Failed to read usdt()"
  | .decodeUsdt cause => ⟨"Failed to decode usdt()", [cause.message]⟩
  | .call name cause => cause.report.under name

/-- What has been read, with what earlier calls of the batch change in it. -/
structure Caches where
  receivers : List (Word × Address) := []
  deployed : List (Address × Bool) := []
  rates : List (Address × Uint256) := []
  /-- Balances by token and account. -/
  balances : List ((Address × Address) × Uint256) := []

/-- A step of planning. -/
abbrev PlanM (α : Type) := StateT Caches (ExceptT Cause (Dialogue Read Read.Answer)) α

/-- The answer to a question. -/
def ask (q : Read) : PlanM (Read.Answer q) :=
  fun caches => ExceptT.mk ((Dialogue.question q).bind fun r => .done (.ok (r, caches)))

/-- What an answer holds, under an account of its failure. -/
def ofAnswer {α : Type} (told : Report → Cause) : Except Report α → PlanM α
  | .ok a => pure a
  | .error cause => throw (told cause)

/-- What was decoded, under an account of its failure. -/
def ofDecoded {α : Type} (told : Abi.DecodeError → Cause) : Except Abi.DecodeError α → PlanM α
  | .ok a => pure a
  | .error cause => throw (told cause)

/-- What a contract returns. -/
def readContract (a : Address) (calldata : Bytes) (told : Report → Cause := .read) : PlanM Bytes := do
  ofAnswer told (← ask (.contract a calldata))

/-- The number that a contract returns. -/
def readNumber (a : Address) (calldata : Bytes) : PlanM Uint256 := do
  ofDecoded .decode (Abi.uint256Of (← readContract a calldata) 0)

end CheckpointRelay.Plan
