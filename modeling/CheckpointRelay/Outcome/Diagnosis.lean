import CheckpointRelay.Abi.Decode
import CheckpointRelay.Abi.Encode
import CheckpointRelay.Outcome.Basic
import CheckpointRelay.Text.Scan
import CheckpointRelay.Text.Search

/-!
# Why a transaction failed

One line for a failed transaction: the node's message, and in parentheses what the revert data says and what happened in
the internal transactions. Data that cannot be read falls back to a less specific text.
-/

namespace CheckpointRelay

namespace Revert

/-- The message of a failure about which the node says nothing. -/
def defaultMessage : String := "Tron transaction execution failed"

/-- The selector of `Error(string)`. -/
def errorSelector : Bytes := [0x08, 0xc3, 0x79, 0xa0]

/-- The selector of `Panic(uint256)`. -/
def panicSelector : Bytes := [0x4e, 0x48, 0x7b, 0x71]

/-- The declarations of known custom errors and the names they are told by. -/
def customErrors : List (String × String) :=
  [("ETHTransferFailed()", "SafeTransferLib.ETHTransferFailed()"),
   ("TransferFromFailed()", "SafeTransferLib.TransferFromFailed()"),
   ("TransferFailed()", "SafeTransferLib.TransferFailed()"),
   ("ApproveFailed()", "SafeTransferLib.ApproveFailed()"),
   ("TotalSupplyQueryFailed()", "SafeTransferLib.TotalSupplyQueryFailed()"),
   ("ExchangeRateMismatch()", "ExchangeRateMismatch()"),
   ("InsufficientLpLiquidity()", "InsufficientLpLiquidity()"),
   ("InsufficientPulledAmount()", "InsufficientPulledAmount()"),
   ("OnlyExecutor()", "OnlyExecutor()"),
   ("OnlyLp()", "OnlyLp()"),
   ("OnlyOwner()", "OnlyOwner()"),
   ("OutAmountMismatch()", "OutAmountMismatch()"),
   ("RouteNotSet()", "RouteNotSet()"),
   ("ZeroOwnerAddress()", "ZeroOwnerAddress()")]

/-- What revert data says. -/
inductive Reason
  /-- A text, if it can be read. -/
  | error (text : Option String)
  /-- A code, if it can be read. -/
  | panic (code : Option Uint256)
  /-- A known custom error. -/
  | custom (name : String)
  deriving DecidableEq

/-- What revert data says, if its selector is known. -/
def reason? (data : Bytes) : Option Reason :=
  if data.length < 4 then none
  else
    let selector := data.take 4
    let arguments := data.drop 4
    if selector = errorSelector then some (.error (Abi.textOf arguments 0).toOption)
    else if selector = panicSelector then some (.panic (Abi.uint256Of arguments 0).toOption)
    else (customErrors.find? fun e => (Abi.selector e.1).bytes = selector).map fun e => .custom e.2

/-- The text of a reason. -/
def Reason.text : Reason → String
  | .error (some text) => s!"Error({Text.jsonLiteral text})"
  | .error none => "Error(<decode failed>)"
  | .panic (some code) => s!"Panic({code.decimal})"
  | .panic none => "Panic(<decode failed>)"
  | .custom name => name

/-- The text of revert data, if its selector is known. -/
def describe? (data : Bytes) : Option String :=
  (reason? data).map Reason.text

end Revert

namespace InternalTransaction

/-- The digits of the selector of `transfer(address,uint256)`. -/
def transferSelector : List Char := "a9059cbb".toList

/-- The number of digits behind the selector that are looked at. -/
def scanLength : Nat := 512

/-- The number of digits of two words. -/
def argumentsLength : Nat := 128

/-- The recipient and the amount of a token transfer whose calldata stands in a text of digits: behind the first
selector there are two whole words, the first of them an address. -/
def transferIn? (extra : String) : Option (Address × Uint256) := do
  let rest ← Text.after? transferSelector (extra.toList.map Text.lower)
  let digits := (rest.takeWhile Text.isHexDigit).take scanLength
  if digits.length < argumentsLength then none
  else
    let octets ← (Hex.decodeChars (digits.take argumentsLength)).toOption
    let recipient ← (Abi.addressOf octets 0).toOption
    let amount ← (Abi.uint256Of octets 1).toOption
    return (recipient, amount)

/-- The number of characters of an extra text that are shown. -/
def previewLength : Nat := 160

/-- From whom and to whom, if both are addresses. -/
def partiesPart (t : InternalTransaction) : List String :=
  match Address.ofHex t.caller, Address.ofHex t.recipient with
  | .ok caller, .ok recipient => [s!"{caller}->{recipient}"]
  | _, _ => []

/-- The note, if there is one. -/
def notePart (t : InternalTransaction) : List String :=
  if t.noteText = "" then [] else [s!"note={Text.jsonLiteral t.noteText}"]

/-- The token transfer in the extra text, or else the start of that text, if there is one. -/
def extraPart (t : InternalTransaction) : List String :=
  match transferIn? t.extra with
  | some (recipient, amount) => [s!"erc20.transfer(to={recipient.accountHex}, value={amount.decimal})"]
  | none =>
    if t.extra = "" then [] else [s!"extra={Text.jsonLiteral (String.ofList (t.extra.toList.take previewLength))}"]

/-- The transaction that is told about: the first rejected one, or the last. -/
def selected? (ts : List InternalTransaction) : Option InternalTransaction :=
  (ts.find? (·.rejected)).or ts.getLast?

/-- What happened in internal transactions, if there are any. -/
def summary? (ts : List InternalTransaction) : Option String :=
  (selected? ts).map fun t =>
    " ".intercalate ([s!"internalTxs={ts.length}"] ++ (if t.rejected then ["rejected=true"] else []) ++ t.partiesPart ++
      t.notePart ++ t.extraPart)

end InternalTransaction

namespace Outcome

/-- What the revert data says, or what it starts with; nothing if there is none. -/
def revertPart? (o : Outcome) : Option String :=
  if o.returnData = [] then none
  else some ((Revert.describe? o.returnData).getD
    s!"revertData=0x{Hex.encode (o.returnData.take 4)}, len={o.returnData.length} bytes")

/-- Why the transaction failed. -/
def describe (o : Outcome) : String :=
  let message := o.messageText?.getD Revert.defaultMessage
  match o.revertPart?, InternalTransaction.summary? o.internal with
  | some reverted, some internal => s!"{message} ({reverted}; {internal})"
  | some reverted, none => s!"{message} ({reverted})"
  | none, some internal => s!"{message} ({internal})"
  | none, none => message

end Outcome

end CheckpointRelay
