import CheckpointRelay.Wire.Message

/-!
# Transactions

The parts of a transaction and their encoding. Field numbers follow the node's schema, so the encoding of the raw data
is the one that the node hashes. Fields are written in ascending order of their numbers.
-/

namespace CheckpointRelay

open Wire

/-- A message of a named type inside a contract. -/
structure Parameter where
  typeUrl : String := ""
  value : Bytes := []
  deriving DecidableEq, Inhabited

/-- One action of a transaction. -/
structure Contract where
  kind : Int32 := 0
  parameter : Option Parameter := none
  provider : Bytes := []
  name : Bytes := []
  permission : Int32 := 0
  deriving DecidableEq, Inhabited

/-- What a node adds about a transaction that ran. -/
structure TransactionResult where
  fee : Int64 := 0
  code : Int32 := 0
  contractCode : Int32 := 0
  deriving DecidableEq, Inhabited

/-- The part of a transaction that is signed. -/
structure RawTransaction where
  refBlockBytes : Bytes := []
  refBlockNumber : Int64 := 0
  refBlockHash : Bytes := []
  expiration : Int64 := 0
  data : Bytes := []
  contracts : List Contract := []
  scripts : Bytes := []
  timestamp : Int64 := 0
  feeLimit : Int64 := 0
  deriving DecidableEq, Inhabited

/-- A transaction. -/
structure Transaction where
  raw : Option RawTransaction := none
  signatures : List Bytes := []
  results : List TransactionResult := []
  deriving DecidableEq, Inhabited

/-- A call of a contract, as a transaction carries it and a node is asked about it. -/
structure TriggerCall where
  owner : Bytes := []
  contract : Bytes := []
  callValue : Int64 := 0
  data : Bytes := []
  tokenValue : Int64 := 0
  tokenId : Int64 := 0
  deriving DecidableEq, Inhabited

namespace Parameter

/-- The encoding of a parameter. -/
def encode (p : Parameter) : Bytes :=
  textField 1 p.typeUrl ++ bytesField 2 p.value

/-- Takes in a field of a parameter. -/
def take : TakeField Parameter := fun depth key p input =>
  match key.number with
  | 1 => inField "Any.type_url" do return (← takeText key input).map ({ p with typeUrl := · })
  | 2 => inField "Any.value" do return (← takeBytes key input).map ({ p with value := · })
  | _ => takeUnknown depth key p input

end Parameter

namespace Contract

/-- The encoding of a contract. -/
def encode (c : Contract) : Bytes :=
  int32Field 1 c.kind ++ optionalField 2 (c.parameter.map Parameter.encode) ++ bytesField 3 c.provider ++
    bytesField 4 c.name ++ int32Field 5 c.permission

/-- Takes in a field of a contract. -/
def take : TakeField Contract := fun depth key c input =>
  match key.number with
  | 1 => inField "Contract.r#type" do return (← takeInt32 key input).map ({ c with kind := · })
  | 2 => inField "Contract.parameter" do
    return (← takeNested Parameter.take depth key (c.parameter.getD {}) input).map ({ c with parameter := some · })
  | 3 => inField "Contract.provider" do return (← takeBytes key input).map ({ c with provider := · })
  | 4 => inField "Contract.contract_name" do return (← takeBytes key input).map ({ c with name := · })
  | 5 => inField "Contract.permission_id" do return (← takeInt32 key input).map ({ c with permission := · })
  | _ => takeUnknown depth key c input

end Contract

namespace TransactionResult

/-- The encoding of a result. -/
def encode (r : TransactionResult) : Bytes :=
  int64Field 1 r.fee ++ int32Field 2 r.code ++ int32Field 3 r.contractCode

/-- Takes in a field of a result. -/
def take : TakeField TransactionResult := fun depth key r input =>
  match key.number with
  | 1 => inField "TransactionResult.fee" do return (← takeInt64 key input).map ({ r with fee := · })
  | 2 => inField "TransactionResult.ret" do return (← takeInt32 key input).map ({ r with code := · })
  | 3 => inField "TransactionResult.contract_ret" do return (← takeInt32 key input).map ({ r with contractCode := · })
  | _ => takeUnknown depth key r input

end TransactionResult

namespace RawTransaction

/-- The encoding of raw data. -/
def encode (r : RawTransaction) : Bytes :=
  bytesField 1 r.refBlockBytes ++ int64Field 3 r.refBlockNumber ++ bytesField 4 r.refBlockHash ++
    int64Field 8 r.expiration ++ bytesField 10 r.data ++ repeatedField 11 (r.contracts.map Contract.encode) ++
    bytesField 12 r.scripts ++ int64Field 14 r.timestamp ++ int64Field 18 r.feeLimit

/-- Takes in a field of raw data. -/
def take : TakeField RawTransaction := fun depth key r input =>
  match key.number with
  | 1 => inField "TransactionRaw.ref_block_bytes" do return (← takeBytes key input).map ({ r with refBlockBytes := · })
  | 3 => inField "TransactionRaw.ref_block_num" do return (← takeInt64 key input).map ({ r with refBlockNumber := · })
  | 4 => inField "TransactionRaw.ref_block_hash" do return (← takeBytes key input).map ({ r with refBlockHash := · })
  | 8 => inField "TransactionRaw.expiration" do return (← takeInt64 key input).map ({ r with expiration := · })
  | 10 => inField "TransactionRaw.data" do return (← takeBytes key input).map ({ r with data := · })
  | 11 => inField "TransactionRaw.contract" do
    return (← takeNested Contract.take depth key {} input).map fun c => { r with contracts := r.contracts ++ [c] }
  | 12 => inField "TransactionRaw.scripts" do return (← takeBytes key input).map ({ r with scripts := · })
  | 14 => inField "TransactionRaw.timestamp" do return (← takeInt64 key input).map ({ r with timestamp := · })
  | 18 => inField "TransactionRaw.fee_limit" do return (← takeInt64 key input).map ({ r with feeLimit := · })
  | _ => takeUnknown depth key r input

/-- The raw data that octets encode. -/
def decode (b : Bytes) : Reading RawTransaction :=
  Wire.decode take {} b

end RawTransaction

namespace Transaction

/-- The encoding of a transaction. -/
def encode (t : Transaction) : Bytes :=
  optionalField 1 (t.raw.map RawTransaction.encode) ++ repeatedField 2 t.signatures ++
    repeatedField 5 (t.results.map TransactionResult.encode)

/-- Takes in a field of a transaction. -/
def take : TakeField Transaction := fun depth key t input =>
  match key.number with
  | 1 => inField "Transaction.raw_data" do
    return (← takeNested RawTransaction.take depth key (t.raw.getD {}) input).map ({ t with raw := some · })
  | 2 => inField "Transaction.signature" do
    return (← takeBytes key input).map fun s => { t with signatures := t.signatures ++ [s] }
  | 5 => inField "Transaction.ret" do
    return (← takeNested TransactionResult.take depth key {} input).map fun r => { t with results := t.results ++ [r] }
  | _ => takeUnknown depth key t input

/-- The transaction that octets encode. -/
def decode (b : Bytes) : Reading Transaction :=
  Wire.decode take {} b

end Transaction

namespace TriggerCall

/-- The encoding of a call. -/
def encode (c : TriggerCall) : Bytes :=
  bytesField 1 c.owner ++ bytesField 2 c.contract ++ int64Field 3 c.callValue ++ bytesField 4 c.data ++
    int64Field 5 c.tokenValue ++ int64Field 6 c.tokenId

/-- Takes in a field of a call. -/
def take : TakeField TriggerCall := fun depth key c input =>
  match key.number with
  | 1 => inField "TriggerSmartContract.owner_address" do return (← takeBytes key input).map ({ c with owner := · })
  | 2 => inField "TriggerSmartContract.contract_address" do
    return (← takeBytes key input).map ({ c with contract := · })
  | 3 => inField "TriggerSmartContract.call_value" do return (← takeInt64 key input).map ({ c with callValue := · })
  | 4 => inField "TriggerSmartContract.data" do return (← takeBytes key input).map ({ c with data := · })
  | 5 => inField "TriggerSmartContract.call_token_value" do
    return (← takeInt64 key input).map ({ c with tokenValue := · })
  | 6 => inField "TriggerSmartContract.token_id" do return (← takeInt64 key input).map ({ c with tokenId := · })
  | _ => takeUnknown depth key c input

/-- The call that octets encode. -/
def decode (b : Bytes) : Reading TriggerCall :=
  Wire.decode take {} b

/-- The number of the kind of contract that holds a call. -/
def contractKind : Int32 := 31

/-- The name of the type of a call. -/
def typeUrl : String := "type.googleapis.com/protocol.TriggerSmartContract"

/-- The contract that holds a call. -/
def toContract (c : TriggerCall) : Contract :=
  { kind := contractKind, parameter := some { typeUrl := typeUrl, value := c.encode } }

end TriggerCall

end CheckpointRelay
