import CheckpointRelay.Proofs.Controller.Batch
import CheckpointRelay.Proofs.Plan.Refinement
import CheckpointRelay.Proofs.Relay.Retry
import CheckpointRelay.Proofs.Transaction.Encoding

/-!
# What is broadcast

A transaction is broadcast only behind a read of the tip, a plan and a build of the same attempt, and it is the one that
was built there but for three things: the batch in its call ends with the assertion of the tip that the planned events
make of the one read, it has the fee limit, and it has one signature, of the hash under which it is looked up
(`broadcast_of_built`).
-/

namespace CheckpointRelay.Relayer

open Dialogue

/-- The transaction `sent`, looked up as `txid`, is `built` with the batch `calls` and its assertion in place of the
data in its call, made ready by the relayer. The tip is the one that `events` make of `tip` in the block of both. -/
structure SentFor (r : Relayer) (calls : List ControllerCall) (tip : Tip) (events : List Event)
    (built sent : Transaction) (txid : String) (before after : RawTransaction) : Prop where
  raw : built.raw = some before ∧ sent.raw = some after
  /-- The call is the one that was built, with data that reads as the batch and the assertion. -/
  batch : ∃ block call data, before.blockRef = .ok block ∧ after.blockRef = .ok block ∧ built.call = .ok call ∧
    sent.call = .ok { call with data := data } ∧
    Multicall.decode data = .ok
      (calls.map ControllerCall.encode ++ [(ControllerCall.isEventChainTip (EventChain.fold block tip events)).encode])
  /-- Nothing else is changed in the raw data but the fee limit. -/
  frame : ∃ contract parameter value later, before.contracts = contract :: later ∧ contract.parameter = some parameter ∧
    after = { before with
      contracts := { contract with parameter := some { parameter with value := value } } :: later
      feeLimit := r.settings.feeLimit }
  results : sent.results = built.results
  /-- The one signature is of the hash of the raw data, whatever signatures there were. -/
  signature : ∃ signature, r.signer.sign? (Sha256.digest after.encode) = some signature ∧
    sent.signatures = [signature.bytes]
  /-- What is signed stands in what is sent. -/
  wire : Transaction.rawOctets sent.encode = .ok after.encode
  name : txid = Hex.encode (Sha256.digest after.encode).bytes

/-- The call in a transaction is no longer than the transaction. -/
theorem call_length_lt {t : Transaction} {raw : RawTransaction} {contract : Contract} {parameter : Parameter}
    {call : TriggerCall} {n : Nat} (hraw : t.raw = some raw) (hcontract : contract ∈ raw.contracts)
    (hparameter : contract.parameter = some parameter) (hvalue : parameter.value = call.encode)
    (h : t.encode.length < n) : call.encode.length < n :=
  calc call.encode.length = parameter.value.length := by rw [hvalue]
    _ ≤ parameter.encode.length := parameter.length_le_encode
    _ ≤ contract.encode.length := Contract.length_le_encode hparameter
    _ ≤ raw.encode.length := RawTransaction.length_le_encode hcontract
    _ ≤ t.encode.length := Transaction.length_le_encode hraw
    _ < n := h

/-- What is made ready is what is built, with the batch and its assertion. The transaction is no longer than a byte
string can be. -/
theorem sentFor_of_ready {r : Relayer} {calls : List ControllerCall} {tip : Tip} {events : List Event}
    {built sent : Transaction} {txid : String} (h : r.ready calls tip events built = .ok (sent, txid))
    (hlength : sent.encode.length < Bytes.maxLength) :
    ∃ before after, SentFor r calls tip events built sent txid before after := by
  -- what is sent differs from what was built in the fee limit, in the data of its call and in the signature
  obtain ⟨t, hassert, hprepare⟩ := ready_eq_ok.mp h
  obtain ⟨before, block, hbefore, hblock, hdata⟩ := withAssertion_eq_ok.mp hassert
  obtain ⟨raw, contract, parameter, later, call, hholder, hcall, ht⟩ := Transaction.setCallData_eq_ok.mp hdata
  obtain ⟨hraw, hcontracts, hkind, hparameter⟩ := Transaction.callHolder_eq_ok.mp hholder
  obtain rfl : before = raw := Option.some.inj (hbefore.symm.trans hraw)
  obtain ⟨rewritten, signature, _, hrewritten, hsign, hsent, htxid⟩ := Node.prepare_eq_ok.mp hprepare
  rw [ht] at hrewritten
  obtain rfl := Option.some.inj hrewritten
  let batch := calls.map ControllerCall.encode ++
      [(ControllerCall.isEventChainTip (EventChain.fold block tip events)).encode]
  let call' : TriggerCall := { call with data := Multicall.encode batch }
  let contract' : Contract := { contract with parameter := some { parameter with value := call'.encode } }
  let after : RawTransaction := { before with contracts := contract' :: later, feeLimit := r.settings.feeLimit }
  have hbatch : (calls ++ [ControllerCall.isEventChainTip (EventChain.fold block tip events)]).map
      ControllerCall.encode = batch := by
    rw [List.map_append, List.map_singleton]
  rw [hbatch] at hsent hsign htxid
  have hafter : sent.raw = some after := by rw [hsent]
  have hholder' : sent.callHolder = .ok (after, contract', { parameter with value := call'.encode }, later) :=
    Transaction.callHolder_eq_ok.mpr ⟨hafter, rfl, hkind, rfl⟩
  have hshort : call'.encode.length < Bytes.maxLength := call_length_lt hafter (List.mem_cons_self ..) rfl rfl hlength
  have hdecode : Multicall.decode (Multicall.encode batch) = .ok batch :=
    Multicall.decode_encode_self (Nat.lt_of_le_of_lt call'.length_le_encode hshort)
  refine ⟨before, after, ⟨hbefore, hafter⟩, ?_, ?_, ?_, ?_, ?_, ?_⟩
  · -- batch
    exact ⟨block, call, Multicall.encode batch, hblock, hblock, hcall,
      Transaction.call_eq_ok.mpr ⟨_, _, _, _, hholder', TriggerCall.decode_encode hshort⟩, hdecode⟩
  · -- frame
    exact ⟨contract, parameter, call'.encode, later, hcontracts, hparameter, rfl⟩
  · -- results
    rw [hsent, ht]
  · -- signature
    exact ⟨signature, hsign, by rw [hsent]⟩
  · -- wire
    exact Transaction.rawOctets_encode hafter hlength
  · -- name
    exact htxid

/-- What is asked before and after the broadcast of `sent`: right before it, the attempt reads, plans and builds what
`sent` is made of, and until the next attempt begins with another read of the tip, nothing is broadcast and nothing else
is looked up. -/
def BroadcastOf (r : Relayer) (calls : List ControllerCall) (front : List Exchange) (sent : Transaction)
    (back : List Exchange) : Prop :=
  ∃ earlier raw tip events built txid before after own later,
    front = earlier ++ [r.tipExchange (.ok raw), r.planExchange calls (.ok events), r.buildExchange calls (.ok built)] ∧
    Abi.wordOf raw 0 = .ok tip ∧ SentFor r calls tip events built sent txid before after ∧
    back = own ++ later ∧ Relayer.sent own = [] ∧ (∀ name ∈ lookedUp own, name = txid) ∧
    (later = [] ∨ ∃ read rest, later = r.tipExchange read :: rest)

/-- Whatever is answered to an operation, every transaction that it broadcasts is the one just built, with the batch and
its assertion. -/
theorem broadcast_of_built {r : Relayer} {calls : List ControllerCall} {front back : List Exchange} {sent : Transaction}
    {receipt : Except Report Receipt} {res : Except Error String}
    (h : Transcript (r.sendCheckpointed calls).run (front ++ broadcastExchange sent receipt :: back) res)
    (hlength : sent.encode.length < Bytes.maxLength) : BroadcastOf r calls front sent back := by
  by_cases hv : r.settings.callValue = 0
  · obtain ⟨as, hretries, has⟩ := (transcript_sendCheckpointed_iff hv).mp h
    obtain ⟨before, a, after, own, rest, rfl, ha, rfl, rfl⟩ := split_exchanges has.symm
    have hattempt := hretries.attempt a (List.mem_append_right _ (List.mem_cons_self ..))
    rw [ha] at hattempt
    obtain ⟨p, rfl, rfl, hsent, hlookups⟩ := hattempt.broadcast_place
    obtain ⟨rawBefore, rawAfter, hfor⟩ := sentFor_of_ready p.ready_eq hlength
    refine ⟨_, p.raw, p.tip, p.events, p.built, p.txid, rawBefore, rawAfter, rest, _, rfl, p.tip_eq, hfor, rfl, hsent,
      hlookups, ?_⟩
    cases after with
    | nil => exact Or.inl rfl
    | cons b after =>
      have hb := hretries.attempt b (List.mem_append_right _ (List.mem_cons_of_mem _ (List.mem_cons_self ..)))
      obtain ⟨read, rest', hhead⟩ := hb.head
      exact Or.inr ⟨read, rest' ++ after.flatMap AttemptRecord.exchanges, by rw [List.flatMap_cons, hhead]; rfl⟩
  · simp only [sendCheckpointed, ne_eq, hv, not_false_eq_true, if_true] at h
    obtain ⟨hnil, -⟩ := transcript_throw_iff.mp h
    exact absurd hnil (List.append_ne_nil_of_right_ne_nil _ (List.cons_ne_nil _ _))

/-! ## Transactions that the node builds around the batch -/

/-- The call of a batch is read back as it is. -/
theorem decode_batchCall {r : Relayer} {calls : List ControllerCall}
    (h : (Multicall.encode (calls.map ControllerCall.encode)).length < Bytes.maxLength) :
    TriggerCall.decode (r.batchCall calls).encode = .ok (r.batchCall calls) := by
  have haddress : ∀ a : Address, a.bytes.length < UInt64.size := by
    intro a
    rw [a.length_bytes]
    decide
  exact TriggerCall.decode_encode_of_lengths (haddress _) (haddress _) (Bytes.lt_size_of_lt_maxLength h)

/-- A transaction whose first contract is that of a call carries that call. -/
theorem call_of_toContract {t : Transaction} {raw : RawTransaction} {call : TriggerCall} {later : List Contract}
    (hraw : t.raw = some raw) (hcontracts : raw.contracts = call.toContract :: later)
    (hcall : TriggerCall.decode call.encode = .ok call) :
    t.callHolder = .ok (raw, call.toContract, { typeUrl := TriggerCall.typeUrl, value := call.encode }, later) ∧
      t.call = .ok call := by
  have hholder :
      t.callHolder = .ok (raw, call.toContract, { typeUrl := TriggerCall.typeUrl, value := call.encode }, later) :=
    Transaction.callHolder_eq_ok.mpr ⟨hraw, hcontracts, rfl, rfl⟩
  exact ⟨hholder, Transaction.call_eq_ok.mpr ⟨_, _, _, _, hholder, hcall⟩⟩

/-- The raw data that is signed: that of a draft, with the call of the batch and the assertion of a tip as its first
contract, and with the fee limit. -/
def asserting (r : Relayer) (calls : List ControllerCall) (draft : RawTransaction) (tip : Tip) : RawTransaction :=
  { draft with
    contracts := (r.batchCall (calls ++ [.isEventChainTip tip])).toContract :: draft.contracts
    feeLimit := r.settings.feeLimit }

/-- A transaction that the node builds by putting the call of the batch in front of a draft is made ready, if the signer
signs. -/
theorem ready_of_draft {r : Relayer} {calls : List ControllerCall} {tip : Tip} {events : List Event}
    {draft : RawTransaction} {signatures : List Bytes} {results : List TransactionResult} {block : BlockRef}
    {signature : Octets 65} (hblock : draft.blockRef = .ok block) (hfee : 0 ≤ r.settings.feeLimit)
    (hfits : (Multicall.encode (calls.map ControllerCall.encode)).length < Bytes.maxLength)
    (hsign : r.signer.sign? (r.asserting calls draft (EventChain.fold block tip events)).digest = some signature) :
    r.ready calls tip events
      { raw := some { draft with contracts := (r.batchCall calls).toContract :: draft.contracts }
        signatures := signatures, results := results } =
      .ok ({ raw := some (r.asserting calls draft (EventChain.fold block tip events))
             signatures := [signature.bytes], results := results },
        (r.asserting calls draft (EventChain.fold block tip events)).txid) := by
  let built : Transaction :=
    { raw := some { draft with contracts := (r.batchCall calls).toContract :: draft.contracts }
      signatures := signatures, results := results }
  obtain ⟨hholder, hcall⟩ := call_of_toContract (show built.raw = some _ from rfl) rfl (decode_batchCall hfits)
  exact ready_eq_ok.mpr ⟨_, withAssertion_eq_ok.mpr ⟨_, block, rfl, hblock,
      Transaction.setCallData_eq_ok.mpr ⟨_, _, _, _, _, hholder, hcall, rfl⟩⟩,
    Node.prepare_eq_ok.mpr ⟨_, signature, Int64.not_lt.mpr hfee, rfl, hsign, rfl, rfl⟩⟩

/-! ## An operation that comes to a broadcast -/

/-- A relayer for the controller of the sample chain. -/
def sampleSender : Relayer :=
  { sampleRelayer with controller := Plan.sampleAccount }

/-- One unit is sent through a rebalancer. -/
def sampleBatch : List ControllerCall :=
  [.rebalanceUsdt Plan.sampleAccount .one]

/-- What that emits on the sample chain. -/
def sampleEvents : List Event :=
  [.usdtRebalanced .one .zero Plan.sampleAccount]

/-- The raw data that a node puts the call of a batch into, in the block of a number. -/
def sampleDraft (number : Int64) : RawTransaction :=
  { refBlockNumber := number, timestamp := 9 }

/-- The transaction that a node builds from it for the batch, with signatures that are no use. -/
def sampleBuilt (number : Int64) : Transaction :=
  { raw := some { sampleDraft number with contracts := [(sampleSender.batchCall sampleBatch).toContract] }
    signatures := [[1], [2]] }

/-- The topic of the event of the batch. -/
def sampleTopic : Word :=
  ⟨[0xc1, 0x2d, 0xaf, 0xb0, 0xc4, 0x07, 0xb0, 0xb3, 0x42, 0x62, 0x36, 0x05, 0xe9, 0x50, 0xef, 0x39,
    0xbc, 0x2e, 0x3c, 0x97, 0xa3, 0xe5, 0xee, 0x57, 0x45, 0x55, 0xb3, 0x50, 0x67, 0x76, 0x01, 0xb1], rfl⟩

set_option maxRecDepth 8000 in
/-- The topic of a rebalancing, computed. -/
theorem topic_usdtRebalanced : Abi.topic Signature.usdtRebalanced = sampleTopic :=
  Octets.ext ((Keccak256.Numeric.bytes_digest (by decide)).trans (by decide))

/-- The tip that the event of the batch makes of another one, in the block of a number. -/
def sampleAfter (number : UInt64) (tip : Tip) : Tip :=
  EventChain.advance ⟨number, 9⟩ tip
    ⟨sampleTopic, Abi.words [Uint256.one.toWord, Uint256.zero.toWord, Abi.ofAddress Plan.sampleAccount]⟩

/-- The events of the batch make that tip. -/
theorem fold_sampleEvents (number : UInt64) (tip : Tip) :
    EventChain.fold ⟨number, 9⟩ tip sampleEvents = sampleAfter number tip := by
  rw [sampleEvents, Event.usdtRebalanced, topic_usdtRebalanced]
  rfl

/-- The octets of the relayer's address. -/
def sampleOwner : Bytes :=
  [0x41, 0x7e, 0x5f, 0x45, 0x52, 0x09, 0x1a, 0x69, 0x12, 0x5d, 0x5d,
    0xfc, 0xb7, 0xb8, 0xc2, 0x65, 0x90, 0x29, 0x39, 0x5b, 0xdf]

/-- The address of the sample key, computed. -/
theorem bytes_sampleSender : sampleSender.signer.address.bytes = sampleOwner := by
  rw [Signer.address, Address.ofPoint, Address.bytes]
  dsimp only
  rw [Keccak256.Numeric.bytes_digest (by rw [Octets.length_eq]; decide)]
  decide +kernel

/-- The raw data that is signed, with the hashes in it computed but for that of the tip. -/
def sampleSigned (number : Int64) (tip : Tip) : RawTransaction :=
  { refBlockNumber := number
    timestamp := 9
    feeLimit := 150000000
    contracts := [TriggerCall.toContract {
      owner := sampleOwner
      contract := Plan.sampleAccount.bytes
      data := Abi.callWithTail ⟨[0xac, 0x96, 0x50, 0xd8], rfl⟩ [] (Abi.ofBytesArray [
        Abi.call ⟨[0xb3, 0xf8, 0xf5, 0x73], rfl⟩ [Abi.ofAddress Plan.sampleAccount, Uint256.one.toWord],
        Abi.call ⟨[0x99, 0x27, 0x5a, 0x9b], rfl⟩ [tip]]) }] }

/-- Asserting a tip behind the sample batch gives the sample transaction. -/
theorem asserting_sampleBatch (number : Int64) (tip : Tip) :
    sampleSender.asserting sampleBatch (sampleDraft number) tip = sampleSigned number tip := by
  have hmulticall : Abi.selector Signature.multicall = ⟨[0xac, 0x96, 0x50, 0xd8], rfl⟩ :=
    Octets.ext (Abi.bytes_selector_eq (by decide))
  have hassertion : Abi.selector Signature.isEventChainTip = ⟨[0x99, 0x27, 0x5a, 0x9b], rfl⟩ :=
    Octets.ext (Abi.bytes_selector_eq (by decide))
  have hrebalance : Abi.selector Signature.rebalanceUsdt = ⟨[0xb3, 0xf8, 0xf5, 0x73], rfl⟩ :=
    Octets.ext (Abi.bytes_selector_eq (by decide))
  rw [asserting, sampleBatch, batchCall, controllerCall, bytes_sampleSender, Multicall.encode]
  simp only [List.cons_append, List.nil_append, List.map_cons, List.map_nil, ControllerCall.encode, hmulticall,
    hassertion, hrebalance]
  rfl

/-- The batch with an assertion has 356 octets. -/
theorem length_sampleBatch (tip : Tip) :
    (Multicall.encode ((sampleBatch ++ [ControllerCall.isEventChainTip tip]).map ControllerCall.encode)).length =
      356 := by
  rw [Multicall.length_encode]
  simp only [sampleBatch, List.cons_append, List.nil_append, List.map_cons, List.map_nil, ControllerCall.encode,
    List.flatMap_cons, List.flatMap_nil, List.length_append, Abi.length_ofBytes, Abi.length_call, List.length_cons,
    List.length_nil]
  rfl

/-- The sample key signs the first sample transaction. -/
theorem signs_first :
    (sampleSender.signer.sign? (sampleSigned 7 (sampleAfter 7 Plan.sampleNumber.toWord)).digest).isSome = true := by
  decide +kernel

/-- The first sample transaction is short enough to be posted. -/
theorem length_first : (sampleSigned 7 (sampleAfter 7 Plan.sampleNumber.toWord)).encode.length < UInt32.size := by
  decide +kernel

/-- A signed transaction is not much longer than its raw data. -/
theorem length_encode_signed_lt {raw : RawTransaction} (signature : Octets 65) (h : raw.encode.length < UInt32.size) :
    (Transaction.encode { raw := some raw, signatures := [signature.bytes] }).length < Bytes.maxLength := by
  have h1 := Wire.length_varint_le raw.encode.length
  have h2 := Wire.length_varint_le 65
  have h3 := Wire.length_varint_le (1 * 8 + Wire.Kind.delimited.code)
  have h4 := Wire.length_varint_le (2 * 8 + Wire.Kind.delimited.code)
  simp only [Transaction.encode, Option.map_some, List.map_nil, Wire.optionalField, Wire.repeatedField,
    List.flatMap_cons, List.flatMap_nil, Wire.delimitedField, Wire.Key.encode, List.length_append, List.length_nil,
    signature.length_eq]
  simp only [Wire.Kind.code, Bytes.maxLength, UInt32.size] at h h1 h3 h4 ⊢
  omega

/-- The sample batch is sent from the tip that is read in any block whose transaction the signer signs. -/
theorem exists_samplePrepared {number : Int64} (hnumber : 0 ≤ number) (tip : Tip)
    (hsign : (sampleSender.signer.sign? (sampleSigned number (sampleAfter number.toUInt64 tip)).digest).isSome = true)
    (hlength : (sampleSigned number (sampleAfter number.toUInt64 tip)).encode.length < UInt32.size) :
    ∃ p : sampleSender.Prepared sampleBatch, p.tip = tip ∧ p.events = sampleEvents ∧ p.built = sampleBuilt number ∧
      p.txid = (sampleSigned number (sampleAfter number.toUInt64 tip)).txid ∧
      p.sent.encode.length < Bytes.maxLength := by
  obtain ⟨signature, hsign⟩ := Option.isSome_iff_exists.mp hsign
  have hblock : (sampleDraft number).blockRef = .ok ⟨number.toUInt64, 9⟩ := by
    have htimestamp : ¬(9 : Int64) < 0 := by decide
    rw [RawTransaction.blockRef, sampleDraft, if_neg (Int64.not_lt.mpr hnumber), if_neg htimestamp]
    rfl
  have hfits : (Multicall.encode (sampleBatch.map ControllerCall.encode)).length < Bytes.maxLength := by
    refine Nat.lt_of_le_of_lt (Multicall.length_encode_le_append _ [(ControllerCall.isEventChainTip tip).encode]) ?_
    have hlength := length_sampleBatch tip
    rw [List.map_append, List.map_singleton] at hlength
    rw [hlength]
    decide
  have hasserted : sampleSender.asserting sampleBatch (sampleDraft number)
      (EventChain.fold ⟨number.toUInt64, 9⟩ tip sampleEvents) =
        sampleSigned number (sampleAfter number.toUInt64 tip) := by
    rw [fold_sampleEvents, asserting_sampleBatch]
  have hready : sampleSender.ready sampleBatch tip sampleEvents (sampleBuilt number) = _ :=
    ready_of_draft hblock (by decide) hfits (hasserted ▸ hsign)
  rw [hasserted] at hready
  have htip : Abi.wordOf tip.bytes 0 = .ok tip := Abi.wordOf_of_standsAt (by rw [tip.length_eq]; decide) (.self _)
  exact ⟨⟨tip.bytes, tip, sampleEvents, sampleBuilt number, _, _, htip, hready⟩, rfl, rfl, rfl, rfl,
    length_encode_signed_lt signature hlength⟩

/-- A batch of one call is broadcast when the tip is read, one event is planned and a transaction is built. -/
theorem broadcast_of_built_sample : ∃ front sent receipt res,
    Transcript (sampleSender.sendCheckpointed sampleBatch).run (front ++ [broadcastExchange sent receipt]) res ∧
      sent.encode.length < Bytes.maxLength ∧ BroadcastOf sampleSender sampleBatch front sent [] := by
  obtain ⟨p, -, -, -, -, hlength⟩ := exists_samplePrepared (show (0 : Int64) ≤ 7 by decide) Plan.sampleNumber.toWord
    signs_first length_first
  let a : AttemptRecord := ⟨p.exchanges (.error ⟨"", []⟩), .error (.failure (.node ⟨"", []⟩))⟩
  have hattempt : Attempt sampleSender sampleBatch a.exchanges a.ending := .unsent p ⟨"", []⟩
  have htr : Transcript (sampleSender.sendCheckpointed sampleBatch).run a.exchanges a.ending :=
    (transcript_sendCheckpointed_iff rfl).mpr ⟨[a], .settled a hattempt nofun, (List.flatMap_singleton _ _).symm⟩
  have htr' : Transcript (sampleSender.sendCheckpointed sampleBatch).run ([sampleSender.tipExchange (.ok p.raw),
      sampleSender.planExchange sampleBatch (.ok p.events), sampleSender.buildExchange sampleBatch (.ok p.built)] ++
      [broadcastExchange p.sent (.error ⟨"", []⟩)]) a.ending := htr
  exact ⟨_, p.sent, _, _, htr', hlength, broadcast_of_built htr' hlength⟩

end CheckpointRelay.Relayer
