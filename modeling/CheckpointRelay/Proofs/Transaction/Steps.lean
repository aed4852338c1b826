import CheckpointRelay.Controller.Relay
import CheckpointRelay.Proofs.Result

/-!
# What a step on a transaction changes

Each step on a transaction succeeds exactly when the part it works on is there, and changes nothing but that part. A
transaction is made ready in three such steps: the call in it gets other data, it gets a fee limit, and it gets a
signature.
-/

namespace CheckpointRelay

namespace Transaction

/-- The raw part is got when it is there. -/
theorem getRaw_eq_ok {t : Transaction} {raw : RawTransaction} : t.getRaw = .ok raw ↔ t.raw = some raw := by
  unfold getRaw
  cases t.raw with
  | none => exact ⟨nofun, nofun⟩
  | some raw' => exact ⟨fun h => congrArg some (Except.ok.inj h), fun h => congrArg Except.ok (Option.some.inj h)⟩

/-- Setting the fee ceiling needs a raw part, and changes nothing else of it. -/
theorem setFeeLimit_eq_ok {t t' : Transaction} {limit : Int64} :
    t.setFeeLimit limit = .ok t' ↔
      ∃ raw, t.raw = some raw ∧ t' = { t with raw := some { raw with feeLimit := limit } } := by
  simp only [setFeeLimit, mapRaw, Result.bind_eq_ok, getRaw_eq_ok, Result.pure_eq_ok, eq_comm (a := t')]

/-- A contract is added behind those that are there. -/
theorem addContract_eq_ok {t t' : Transaction} {contract : Contract} :
    t.addContract contract = .ok t' ↔
      ∃ raw, t.raw = some raw ∧ t' = { t with raw := some { raw with contracts := raw.contracts ++ [contract] } } := by
  simp only [addContract, mapRaw, Result.bind_eq_ok, getRaw_eq_ok, Result.pure_eq_ok, eq_comm (a := t')]

/-- A call is held by the parameter of the first contract, if that is of the kind that holds calls. -/
theorem callHolder_eq_ok {t : Transaction} {raw : RawTransaction} {contract : Contract} {parameter : Parameter}
    {later : List Contract} :
    t.callHolder = .ok (raw, contract, parameter, later) ↔
      t.raw = some raw ∧ raw.contracts = contract :: later ∧ contract.kind = TriggerCall.contractKind ∧
        contract.parameter = some parameter := by
  simp only [callHolder, Result.bind_eq_ok, getRaw_eq_ok]
  constructor
  · rintro ⟨raw', hraw, h⟩
    split at h
    · nomatch h
    · rename_i contract' later' hcontracts
      obtain ⟨hkind, h⟩ := Result.unless_eq_ok.mp h
      split at h
      · nomatch h
      · rename_i parameter' hparameter
        cases Result.pure_eq_ok.mp h
        exact ⟨hraw, hcontracts, Decidable.not_not.mp hkind, hparameter⟩
  · rintro ⟨hraw, hcontracts, hkind, hparameter⟩
    refine ⟨raw, hraw, ?_⟩
    simp only [hcontracts, hkind, ne_eq, not_true_eq_false, if_false, hparameter]
    rfl

/-- The call of a transaction is what the parameter of its first contract decodes to. -/
theorem call_eq_ok {t : Transaction} {call : TriggerCall} :
    t.call = .ok call ↔ ∃ raw contract parameter later, t.callHolder = .ok (raw, contract, parameter, later) ∧
      TriggerCall.decode parameter.value = .ok call := by
  simp only [Transaction.call, Result.bind_eq_ok, Result.mapError_eq_ok, Prod.exists]

/-- The data of a call is replaced in the parameter that holds the call. -/
theorem setCallData_eq_ok {t t' : Transaction} {data : Bytes} :
    t.setCallData data = .ok t' ↔
      ∃ raw contract parameter later call, t.callHolder = .ok (raw, contract, parameter, later) ∧
        t.call = .ok call ∧
        t' = { t with raw := some { raw with
          contracts := { contract with
            parameter := some { parameter with value := ({ call with data := data } : TriggerCall).encode } } ::
              later } } := by
  simp only [setCallData, Result.bind_eq_ok, Result.pure_eq_ok, Prod.exists, eq_comm (a := t')]
  constructor
  · rintro ⟨raw, contract, parameter, later, hholder, call, hcall, h⟩
    exact ⟨raw, contract, parameter, later, call, hholder, hcall, h⟩
  · rintro ⟨raw, contract, parameter, later, call, hholder, hcall, h⟩
    exact ⟨raw, contract, parameter, later, hholder, call, hcall, h⟩

end Transaction

/-- Signing puts the one signature of the raw part's digest, and names the transaction by it. -/
theorem Signer.signTransaction_eq_ok {s : Signer} {t t' : Transaction} {txid : String} :
    s.signTransaction t = .ok (t', txid) ↔ ∃ raw signature, t.raw = some raw ∧ s.sign? raw.digest = some signature ∧
      t' = { t with signatures := [signature.bytes] } ∧ txid = raw.txid := by
  simp only [signTransaction, Result.bind_eq_ok, Transaction.getRaw_eq_ok]
  constructor
  · rintro ⟨raw, hraw, h⟩
    split at h
    · rename_i signature hsign
      cases Result.pure_eq_ok.mp h
      exact ⟨raw, signature, hraw, hsign, rfl, rfl⟩
    · nomatch h
  · rintro ⟨raw, signature, hraw, hsign, rfl, rfl⟩
    refine ⟨raw, hraw, ?_⟩
    rw [hsign]
    rfl

/-- A transaction is sent with the fee limit, which is not negative, and with nothing but the signature of what it then
is. -/
theorem Node.prepare_eq_ok {settings : ConfirmSettings} {signer : Signer} {t sent : Transaction} {txid : String} :
    prepare settings signer t = .ok (sent, txid) ↔ ∃ raw signature, ¬settings.feeLimit < 0 ∧ t.raw = some raw ∧
      signer.sign? { raw with feeLimit := settings.feeLimit }.digest = some signature ∧
      sent = { t with raw := some { raw with feeLimit := settings.feeLimit }, signatures := [signature.bytes] } ∧
      txid = { raw with feeLimit := settings.feeLimit }.txid := by
  unfold prepare
  rw [Result.unless_eq_ok]
  simp only [Result.bind_eq_ok, Transaction.setFeeLimit_eq_ok, Signer.signTransaction_eq_ok]
  constructor
  · rintro ⟨hlimit, limited, ⟨raw, hraw, rfl⟩, raw', signature, hraw', hsign, rfl, rfl⟩
    cases hraw'
    exact ⟨raw, signature, hlimit, hraw, hsign, rfl, rfl⟩
  · rintro ⟨raw, signature, hlimit, hraw, hsign, rfl, rfl⟩
    exact ⟨hlimit, _, ⟨raw, hraw, rfl⟩, _, signature, rfl, hsign, rfl, rfl⟩

/-- The assertion at the end of a batch is of the tip that the events make in the block of the transaction that carries
it. -/
theorem Relayer.withAssertion_eq_ok {calls : List ControllerCall} {tip : Tip} {events : List Event}
    {built t : Transaction} :
    withAssertion calls tip events built = .ok t ↔ ∃ raw block, built.raw = some raw ∧ raw.blockRef = .ok block ∧
      built.setCallData
          (Multicall.encode ((calls ++ [ControllerCall.isEventChainTip (EventChain.fold block tip events)]).map
            ControllerCall.encode))
        = .ok t := by
  simp only [withAssertion, Result.bind_eq_ok, Transaction.getRaw_eq_ok]
  constructor
  · rintro ⟨raw, hraw, block, hblock, h⟩
    exact ⟨raw, block, hraw, hblock, h⟩
  · rintro ⟨raw, block, hraw, hblock, h⟩
    exact ⟨raw, hraw, block, hblock, h⟩

end CheckpointRelay
