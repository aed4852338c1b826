import CheckpointRelay.EventChain
import CheckpointRelay.Failure
import CheckpointRelay.Signer
import CheckpointRelay.Transaction.Basic

/-!
# Working on a transaction

The call that a transaction carries can be read and its data replaced, the block it runs against can be read, and it can
be signed. The hash of the encoded raw data is both what is signed and the name of the transaction.
-/

namespace CheckpointRelay

namespace Transaction

/-- What a step on a transaction can miss in it. -/
inductive Error
  /-- There is no raw data. -/
  | noRaw
  /-- There is no contract. -/
  | noContract
  /-- The first contract is of another kind than a call. -/
  | otherKind (kind : Int32)
  /-- The first contract has no parameter. -/
  | noParameter
  /-- The digits of raw data are none. -/
  | rawDigits (cause : Hex.Error)
  /-- The raw data cannot be decoded. -/
  | rawEncoding (cause : Wire.DecodeError)
  /-- The call cannot be decoded. -/
  | callEncoding (cause : Wire.DecodeError)
  /-- The number of the reference block is negative. -/
  | negativeNumber (n : Int64)
  /-- The time is negative. -/
  | negativeTimestamp (n : Int64)
  /-- The fee limit to be set is negative. -/
  | negativeFeeLimit (n : Int64)
  /-- The key has no signature for the digest. -/
  | noSignature
  deriving DecidableEq, Repr

/-- The wording of an error about a transaction. -/
def Error.message : Error → String
  | .noRaw => "missing raw_data"
  | .noContract => "transaction has no contract"
  | .otherKind kind => s!"expected TriggerSmartContract, got contract type {kind.toInt}"
  | .noParameter => "contract has no parameter"
  | .rawDigits cause => s!"raw_data_hex: {cause.message}"
  | .rawEncoding cause => s!"raw_data: {cause.message}"
  | .callEncoding cause => s!"TriggerSmartContract: {cause.message}"
  | .negativeNumber n => s!"negative ref_block_num {n.toInt}"
  | .negativeTimestamp n => s!"negative timestamp {n.toInt}"
  | .negativeFeeLimit n => s!"negative fee limit {n.toInt}"
  | .noSignature => "signing failed: signature error"

/-- The error as a failure. -/
def Error.toFailure (e : Error) : Failure :=
  .malformedTransaction e.message

/-- The raw data, which must be there. -/
def getRaw (t : Transaction) : Except Error RawTransaction :=
  match t.raw with
  | some raw => .ok raw
  | none => .error .noRaw

/-- The transaction with its raw data, which must be there, changed. -/
def mapRaw (f : RawTransaction → RawTransaction) (t : Transaction) : Except Error Transaction := do
  let raw ← t.getRaw
  return { t with raw := some (f raw) }

/-- The unsigned transaction whose raw data is given by its digits. -/
def ofRawHex (digits : String) : Except Error Transaction := do
  let octets ← (Hex.decode digits).mapError .rawDigits
  let raw ← (RawTransaction.decode octets).mapError .rawEncoding
  return { raw := some raw }

/-- The first contract with its parameter, which must hold a call, and the later contracts. -/
def callHolder (t : Transaction) : Except Error (RawTransaction × Contract × Parameter × List Contract) := do
  let raw ← t.getRaw
  match raw.contracts with
  | [] => throw .noContract
  | contract :: later =>
    if contract.kind ≠ TriggerCall.contractKind then throw (.otherKind contract.kind)
    match contract.parameter with
    | none => throw .noParameter
    | some parameter => return (raw, contract, parameter, later)

/-- The call that a transaction carries. -/
def call (t : Transaction) : Except Error TriggerCall := do
  let (_, _, parameter, _) ← t.callHolder
  (TriggerCall.decode parameter.value).mapError .callEncoding

/-- The transaction with other data in the call that it carries. -/
def setCallData (t : Transaction) (data : Bytes) : Except Error Transaction := do
  let (raw, contract, parameter, later) ← t.callHolder
  let call ← t.call
  let parameter := { parameter with value := ({ call with data := data } : TriggerCall).encode }
  return { t with raw := some { raw with contracts := { contract with parameter := some parameter } :: later } }

/-- The transaction with a fee limit. -/
def setFeeLimit (t : Transaction) (limit : Int64) : Except Error Transaction :=
  t.mapRaw ({ · with feeLimit := limit })

/-- The transaction with one more contract. -/
def addContract (t : Transaction) (contract : Contract) : Except Error Transaction :=
  t.mapRaw fun raw => { raw with contracts := raw.contracts ++ [contract] }

end Transaction

namespace RawTransaction

/-- What is signed. -/
def digest (r : RawTransaction) : Word :=
  Sha256.digest r.encode

/-- The name of the transaction. -/
def txid (r : RawTransaction) : String :=
  Hex.encode r.digest.bytes

/-- The block that a transaction runs against. -/
def blockRef (r : RawTransaction) : Except Transaction.Error BlockRef :=
  if r.refBlockNumber < 0 then .error (.negativeNumber r.refBlockNumber)
  else if r.timestamp < 0 then .error (.negativeTimestamp r.timestamp)
  else .ok ⟨r.refBlockNumber.toUInt64, r.timestamp.toUInt64⟩

end RawTransaction

namespace Signer

/-- The transaction with the signer's signature as its only one, and its name. -/
def signTransaction (s : Signer) (t : Transaction) : Except Transaction.Error (Transaction × String) := do
  let raw ← t.getRaw
  match s.sign? raw.digest with
  | some signature => return ({ t with signatures := [signature.bytes] }, raw.txid)
  | none => throw .noSignature

end Signer

end CheckpointRelay
