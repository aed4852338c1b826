import CheckpointRelay.Plan.Events

/-!
# Executing calls on the chain

`Chain` is the state on which the events of a batch depend, and `executeAll` runs a batch on it, call by call: nothing
is read ahead and nothing is remembered. `none` is a revert. Planning is held against this execution.
-/

namespace CheckpointRelay.Plan

/-- The state of the chain, as far as the events of a batch depend on it. -/
structure Chain where
  /-- The USDT token. -/
  usdt : Address
  /-- The exchange rates of tokens. -/
  rate : (token : Address) → Uint256
  /-- The balances of accounts, token by token. -/
  balance : (token account : Address) → Uint256
  /-- Whether there is a contract at an address. -/
  deployed : (account : Address) → Bool
  /-- The receivers of salts, whether there is a contract at them or not. -/
  receiver : (salt : Word) → Address
  /-- The routes of rebalancers. -/
  payload : (rebalancer : Address) → Bytes
  /-- The fees of routes, in parts of their denominators. -/
  feeBps : (oft : Address) → Uint256
  /-- What the fees of routes are in parts of. -/
  bpsDenominator : (oft : Address) → Uint256

namespace Chain

/-- The chain with a contract at an address. -/
def deploy (chain : Chain) (account : Address) : Chain :=
  { chain with deployed := fun a => if a = account then true else chain.deployed a }

/-- The chain with another balance of an account. -/
def setBalance (chain : Chain) (token account : Address) (balance : Uint256) : Chain :=
  { chain with balance := fun t a => if (t, a) = (token, account) then balance else chain.balance t a }

/-! ## Sweeps -/

/-- The exchange rate at which a token is swept. -/
def sweepRate (chain : Chain) (token : Address) : Uint256 :=
  if token = chain.usdt then rateScale else chain.rate token

/-- The worth in USDT of an amount of a token. It reverts when the product with the rate needs more than 256 bits. -/
def worth (chain : Chain) (token : Address) (rate amount : Uint256) : Option Uint256 :=
  if token = chain.usdt then some amount
  else if h : amount.val * rate.val < Word.count then
    some ⟨amount.val * rate.val / rateScale.val, Nat.lt_of_le_of_lt (Nat.div_le_self _ _) h⟩
  else none

/-- Sweeps all but one unit of a token from the receiver of a salt, which is made first if it is not there. -/
def sweep (token : Address) (rate : Uint256) (salt : Word) (chain : Chain) : Option (List Event × Chain) :=
  let receiver := chain.receiver salt
  let balance := chain.balance token receiver
  if 1 < balance.val then do
    let made := if chain.deployed receiver then [] else [Event.receiverDeployed receiver salt]
    let worth ← chain.worth token rate balance.pred
    some (made ++ [.pulledFromReceiver salt token balance.pred rate worth],
      (chain.deploy receiver).setBalance token receiver .one)
  else some ([], chain)

/-- Sweeps the receivers of salts, one after the other. -/
def sweepAll (token : Address) (rate : Uint256) : (salts : List Word) → Chain → Option (List Event × Chain)
  | [], chain => some ([], chain)
  | salt :: rest, chain => do
    let (events, chain) ← sweep token rate salt chain
    let (more, chain) ← sweepAll token rate rest chain
    some (events ++ more, chain)

/-! ## Rebalancing -/

/-- The contract of a route, whose payload has at least three words, the first of them an address. -/
def route (payload : Bytes) : Option Address :=
  if h : 96 ≤ payload.length ∧ payload.take 12 = List.replicate 12 0 then
    some ⟨⟨(payload.drop 12).take 20, by rw [List.length_take, List.length_drop]; omega⟩⟩
  else none

/-- What arrives of an amount after the fee of a route. It reverts when the fee is in parts of zero, needs more than 256
bits to compute or is more than the amount. -/
def afterFee (chain : Chain) (oft : Address) (amount : Uint256) : Option Uint256 :=
  let product := amount.val * (chain.feeBps oft).val
  let fee := product / (chain.bpsDenominator oft).val
  if (chain.bpsDenominator oft).val = 0 ∨ Word.count ≤ product ∨ amount.val < fee then none
  else some ⟨amount.val - fee, Nat.lt_of_le_of_lt (Nat.sub_le _ _) amount.lt⟩

/-! ## Calls -/

/-- Runs a call: its events and the state after it. -/
def execute : ControllerCall → Chain → Option (List Event × Chain)
  | .pullFromReceivers token salts, chain =>
    if salts = [] ∨ (chain.sweepRate token).val = 0 then none else sweepAll token (chain.sweepRate token) salts chain
  | .rebalanceUsdt rebalancer amount, chain => do
    let oft ← route (chain.payload rebalancer)
    let received ← chain.afterFee oft amount
    some ([.usdtRebalanced amount received rebalancer], chain)
  | .isEventChainTip _, chain => some ([], chain)

/-- Runs calls, one after the other. -/
def executeAll : (calls : List ControllerCall) → Chain → Option (List Event × Chain)
  | [], chain => some ([], chain)
  | call :: rest, chain => do
    let (events, chain) ← execute call chain
    let (more, chain) ← executeAll rest chain
    some (events ++ more, chain)

/-- The events of calls, unless they revert. -/
def emitted? (chain : Chain) (calls : List ControllerCall) : Option (List Event) :=
  (chain.executeAll calls).map Prod.fst

/-- The assertion of a tip emits nothing. -/
theorem executeAll_concat_isEventChainTip (calls : List ControllerCall) (tip : Tip) (chain : Chain) :
    chain.executeAll (calls ++ [.isEventChainTip tip]) = chain.executeAll calls := by
  induction calls generalizing chain with
  | nil => rfl
  | cons call calls ih =>
    rw [List.cons_append, executeAll, executeAll]
    simp only [ih]

end Chain

end CheckpointRelay.Plan
