import CheckpointRelay.Abi.Decode
import CheckpointRelay.Abi.Encode
import CheckpointRelay.EventChain

/-!
# Calls of the controller

The calls that change the controller's state, the reads it answers, and the batch `multicall(bytes[])` that carries
several of them.
-/

namespace CheckpointRelay

/-! ## Declarations of the controller and of the contracts beside it -/

namespace Signature

/-- Runs a batch of calls. -/
def multicall : String := "multicall(bytes[])"

/-- Reverts unless the tip is the one given. -/
def isEventChainTip : String := "isEventChainTip(bytes32)"

/-- Sweeps a token from receivers. -/
def pullFromReceivers : String := "pullFromReceivers(address,bytes32[])"

/-- Sends an amount of USDT through a rebalancer. -/
def rebalanceUsdt : String := "rebalanceUsdt(address,uint256)"

/-- Answers the tip. -/
def eventChainTip : String := "eventChainTip()"

/-- Answers the USDT token. -/
def usdt : String := "usdt()"

/-- Answers the amount of USDT pulled so far. -/
def pulledUsdt : String := "pulledUsdt()"

/-- Answers the exchange rate of a token. -/
def lpExchangeRateFor : String := "lpExchangeRateFor(address)"

/-- Answers the receiver of a salt. -/
def predictReceiverAddress : String := "predictReceiverAddress(bytes32)"

/-- Answers the route of a rebalancer. -/
def payloadFor : String := "payloadFor(address)"

/-- Answers the balance of an account, asked of a token. -/
def balanceOf : String := "balanceOf(address)"

/-- Answers the fee of a route in parts of its denominator. -/
def feeBps : String := "feeBps()"

/-- Answers what a route's fee is in parts of. -/
def bpsDenominator : String := "BPS_DENOMINATOR()"

/-- A receiver contract was made. -/
def receiverDeployed : String := "ReceiverDeployed(address,bytes32)"

/-- A receiver was swept. -/
def pulledFromReceiver : String := "PulledFromReceiver(bytes32,address,uint256,uint256,uint256)"

/-- An amount of USDT was sent through a rebalancer. -/
def usdtRebalanced : String := "UsdtRebalanced(uint256,uint256,address)"

end Signature

/-- A call that changes the controller's state, or holds only in one state of it. -/
inductive ControllerCall
  /-- Sweep a token from the receivers of salts. -/
  | pullFromReceivers (token : Address) (salts : List Word)
  /-- Send an amount of USDT through the route of a rebalancer. -/
  | rebalanceUsdt (rebalancer : Address) (amount : Uint256)
  /-- Revert unless the event chain has this tip. -/
  | isEventChainTip (tip : Tip)
  deriving DecidableEq

namespace ControllerCall

/-- The name of the function that a call calls. -/
def name : ControllerCall → String
  | .pullFromReceivers .. => "pullFromReceivers"
  | .rebalanceUsdt .. => "rebalanceUsdt"
  | .isEventChainTip .. => "isEventChainTip"

/-- The calldata of a call. -/
def encode : ControllerCall → Bytes
  | .pullFromReceivers token salts =>
    Abi.callWithTail (Abi.selector Signature.pullFromReceivers) [Abi.ofAddress token] (Abi.ofWords salts)
  | .rebalanceUsdt rebalancer amount =>
    Abi.call (Abi.selector Signature.rebalanceUsdt) [Abi.ofAddress rebalancer, amount.toWord]
  | .isEventChainTip tip => Abi.call (Abi.selector Signature.isEventChainTip) [tip]

end ControllerCall

namespace Multicall

/-- The calldata of a batch of calldata. -/
def encode (calls : List Bytes) : Bytes :=
  Abi.callWithTail (Abi.selector Signature.multicall) [] (Abi.ofBytesArray calls)

/-- Why calldata is no batch. -/
inductive Error
  /-- It is not a call of `multicall(bytes[])`. -/
  | notMulticall
  /-- Its argument cannot be read. -/
  | argument (cause : Abi.DecodeError)
  deriving DecidableEq

/-- The wording of a batch error. -/
def Error.message : Error → String
  | .notMulticall => "not a multicall(bytes[]) call"
  | .argument cause => cause.message

/-- The calldata in a batch. -/
def decode (calldata : Bytes) : Except Error (List Bytes) :=
  if calldata.take 4 = (Abi.selector Signature.multicall).bytes then
    (Abi.bytesArrayOf (calldata.drop 4) 0).mapError .argument
  else .error .notMulticall

end Multicall

/-- The calldata of a read without arguments. -/
def readCall (signature : String) : Bytes :=
  Abi.call (Abi.selector signature) []

/-- The calldata of a read about an address. -/
def addressReadCall (signature : String) (a : Address) : Bytes :=
  Abi.call (Abi.selector signature) [Abi.ofAddress a]

end CheckpointRelay
