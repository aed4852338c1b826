import CheckpointRelay.Plan.Basic

/-!
# Predicting events

The events that a batch of calls emits on the chain as it is now, in order. A sweep leaves one unit in each receiver and
makes the receiver first if it is not there yet; later calls of the batch see both.
-/

namespace CheckpointRelay

namespace Event

/-- A receiver contract is made. -/
def receiverDeployed (receiver : Address) (salt : Word) : Event :=
  ⟨Abi.topic Signature.receiverDeployed, Abi.words [Abi.ofAddress receiver, salt]⟩

/-- A token is swept from the receiver of a salt. -/
def pulledFromReceiver (salt : Word) (token : Address) (amount rate worth : Uint256) : Event :=
  ⟨Abi.topic Signature.pulledFromReceiver,
    Abi.words [salt, Abi.ofAddress token, amount.toWord, rate.toWord, worth.toWord]⟩

/-- An amount of USDT goes through a rebalancer. -/
def usdtRebalanced (sent received : Uint256) (rebalancer : Address) : Event :=
  ⟨Abi.topic Signature.usdtRebalanced, Abi.words [sent.toWord, received.toWord, Abi.ofAddress rebalancer]⟩

end Event

namespace Plan

/-- The scale of exchange rates. -/
def rateScale : Uint256 :=
  ⟨1000000000000000000, by decide⟩

/-- The exchange rate of a token, read once. -/
def rateOf (controller token : Address) : PlanM Uint256 := do
  match (← get).rates.lookup token with
  | some rate => return rate
  | none =>
    let rate ← readNumber controller (addressReadCall Signature.lpExchangeRateFor token)
    modify fun caches => { caches with rates := (token, rate) :: caches.rates }
    return rate

/-- The balance of an account, read once and then kept up to date. -/
def balanceOf (token account : Address) : PlanM Uint256 := do
  match (← get).balances.lookup (token, account) with
  | some balance => return balance
  | none =>
    let balance ← readNumber token (addressReadCall Signature.balanceOf account)
    modify fun caches => { caches with balances := ((token, account), balance) :: caches.balances }
    return balance

/-- Whether there is a contract at an address, asked once and then kept up to date. -/
def isDeployed (a : Address) : PlanM Bool := do
  match (← get).deployed.lookup a with
  | some deployed => return deployed
  | none =>
    let deployed ← ofAnswer .read (← ask (.deployed a))
    modify fun caches => { caches with deployed := (a, deployed) :: caches.deployed }
    return deployed

/-- The salts whose receivers are not known yet, each once. -/
def pendingSalts (caches : Caches) (salts : List Word) : List Word :=
  (salts.filter fun salt => (caches.receivers.lookup salt).isNone).eraseDups

/-- The batch that asks for the receivers of salts. -/
def predictionCall (salts : List Word) : Bytes :=
  Multicall.encode (salts.map fun salt => Abi.call (Abi.selector Signature.predictReceiverAddress) [salt])

/-- Learns the receivers of the salts that are not known yet, with one read for all of them. -/
def predictReceivers (controller : Address) (salts : List Word) : PlanM Unit := do
  let pending := pendingSalts (← get) salts
  if pending = [] then return ()
  let answer ← readContract controller (predictionCall pending) .predict
  let results ← ofDecoded .decode (Abi.bytesArrayOf answer 0)
  if results.length ≠ pending.length then throw (.predictionCount results.length pending.length)
  let receivers ← ofDecoded .decode (results.mapM fun result => Abi.addressOf result 0)
  modify fun caches => { caches with receivers := (pending.zip receivers).reverse ++ caches.receivers }

/-- The receiver of a salt. -/
def receiverOf (salt : Word) : PlanM Address := do
  match (← get).receivers.lookup salt with
  | some receiver => return receiver
  | none => throw (.noReceiver salt)

/-- The worth in USDT of an amount of a token. -/
def worth? (isUsdt : Bool) (rate amount : Uint256) : Option Uint256 :=
  if isUsdt then some amount else (amount.mul? rate).map (·.div rateScale)

/-- The events of sweeping the receiver of a salt; none if it holds one unit at most. -/
def sweep (isUsdt : Bool) (token : Address) (rate : Uint256) (salt : Word) : PlanM (List Event) := do
  let receiver ← receiverOf salt
  let amount := (← balanceOf token receiver).pred
  if amount.val = 0 then return []
  let deployed ← isDeployed receiver
  if !deployed then modify fun caches => { caches with deployed := (receiver, true) :: caches.deployed }
  match worth? isUsdt rate amount with
  | none => throw .amountOverflow
  | some worth =>
    modify fun caches => { caches with balances := ((token, receiver), .one) :: caches.balances }
    return (if deployed then [] else [.receiverDeployed receiver salt]) ++
      [.pulledFromReceiver salt token amount rate worth]

/-- The events of sweeping the receivers of salts, one after the other. -/
def sweepAll (isUsdt : Bool) (token : Address) (rate : Uint256) : (salts : List Word) → PlanM (List Event)
  | [] => return []
  | salt :: rest => do
    let events ← sweep isUsdt token rate salt
    return events ++ (← sweepAll isUsdt token rate rest)

/-- The events of a sweep. -/
def pull (controller usdt token : Address) (salts : List Word) : PlanM (List Event) := do
  if salts = [] then throw .noSalts
  let isUsdt := decide (token = usdt)
  let rate ← if isUsdt then pure rateScale else rateOf controller token
  if rate.val = 0 then throw (.noRate token)
  predictReceivers controller salts
  sweepAll isUsdt token rate salts

/-- What arrives of an amount after a fee of `feeBps` parts in `denominator`. -/
def afterFee (oft : Address) (amount feeBps denominator : Uint256) : Except Cause Uint256 :=
  if denominator.val = 0 then .error (.zeroDenominator oft)
  else match amount.mul? feeBps with
    | none => .error .feeOverflow
    | some product =>
      let fee := product.div denominator
      match amount.sub? fee with
      | some rest => .ok rest
      | none => .error (.feeExceedsAmount oft fee amount feeBps denominator)

/-- What arrives of an amount through the route of a rebalancer. -/
def rebalanced (controller rebalancer : Address) (amount : Uint256) : PlanM Uint256 := do
  let answer ← readContract controller (addressReadCall Signature.payloadFor rebalancer)
  let payload ← ofDecoded .decode (Abi.bytesOf answer 0)
  if payload = [] then throw (.noRoute rebalancer)
  let _ ← ofDecoded .unsupportedRoute (Abi.wordOf payload 2)
  let oft ← ofDecoded .unsupportedRoute (Abi.addressOf payload 0)
  let feeBps ← readNumber oft (readCall Signature.feeBps)
  let denominator ← readNumber oft (readCall Signature.bpsDenominator)
  match afterFee oft amount feeBps denominator with
  | .ok received => return received
  | .error cause => throw cause

/-- The events of a call. -/
def callEvents (controller usdt : Address) : ControllerCall → PlanM (List Event)
  | .pullFromReceivers token salts => pull controller usdt token salts
  | .rebalanceUsdt rebalancer amount => do
    let received ← rebalanced controller rebalancer amount
    return [.usdtRebalanced amount received rebalancer]
  | .isEventChainTip _ => return []

/-- A dialogue of planning. -/
abbrev Planning (α : Type) := ExceptT Error (Dialogue Read Read.Answer) α

/-- The events of calls, one after the other, each seeing what the earlier ones changed. -/
def batchEvents (controller usdt : Address) : Caches → (calls : List ControllerCall) → Planning (List Event)
  | _, [] => return []
  | caches, call :: rest => do
    let (events, caches) ← ExceptT.adapt (Error.call call.name) (callEvents controller usdt call caches)
    return events ++ (← batchEvents controller usdt caches rest)

/-- The events that a batch emits. -/
def events (controller : Address) (calls : List ControllerCall) : Planning (List Event) := do
  let answer ← ExceptT.mk ((Dialogue.question (Read.contract controller (readCall Signature.usdt))).bind
    fun (r : Except Report Bytes) => .done (r.mapError Error.readUsdt))
  let usdt ← ExceptT.mk (.done ((Abi.addressOf answer 0).mapError Error.decodeUsdt))
  batchEvents controller usdt {} calls

end Plan

end CheckpointRelay
