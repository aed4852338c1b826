import CheckpointRelay.Proofs.Transaction.Encoding
import CheckpointRelay.Proofs.Transaction.Steps
import CheckpointRelay.Proofs.Wire.Bounds
import Mathlib.Data.List.Basic

/-!
# Other data in the call of a transaction

The call in a transaction is read, gets other data and is written back, whatever octets it was written in before. That
fails exactly when there is no call to be read (`Lacks`), and then the place that holds the transaction is left as it
was. Else the transaction carries the same call with the new data, differs in nothing else, and keeps no trace of data
that was there before (`setCallData_replaces`).
-/

namespace CheckpointRelay

open Wire

namespace TriggerCall

/-- The byte strings of a call have lengths of sixty-four bits. -/
structure Fits (c : TriggerCall) : Prop where
  owner : c.owner.length < UInt64.size
  contract : c.contract.length < UInt64.size
  data : c.data.length < UInt64.size

/-- A call that is taken in field by field fits, because each byte string is read behind a length of sixty-four bits. -/
theorem fits_take {depth : Nat} {key : Key} {c : TriggerCall} {input : Bytes} {l : Left input TriggerCall} (hc : c.Fits)
    (h : take depth key c input = .ok l) : l.value.Fits := by
  unfold take at h
  split at h
  · obtain ⟨v, hv, hset⟩ := field_eq_ok h
    exact hset ▸ { hc with owner := takeBytes_lt hv }
  · obtain ⟨v, hv, hset⟩ := field_eq_ok h
    exact hset ▸ { hc with contract := takeBytes_lt hv }
  · obtain ⟨v, hv, hset⟩ := field_eq_ok h
    exact hset ▸ { hc with }
  · obtain ⟨v, hv, hset⟩ := field_eq_ok h
    exact hset ▸ { hc with data := takeBytes_lt hv }
  · obtain ⟨v, hv, hset⟩ := field_eq_ok h
    exact hset ▸ { hc with }
  · obtain ⟨v, hv, hset⟩ := field_eq_ok h
    exact hset ▸ { hc with }
  · exact takeUnknown_eq_ok h ▸ hc

/-- What is decoded fits a message. -/
theorem fits_of_decode {b : Bytes} {c : TriggerCall} (h : decode b = .ok c) : c.Fits :=
  decode_keeps fits_take ⟨by decide, by decide, by decide⟩ h

/-- A call that has been decoded, from whatever octets, decodes again when it is encoded with other data. -/
theorem decode_encode_withData {b data : Bytes} {c : TriggerCall} (h : decode b = .ok c)
    (hdata : data.length < UInt64.size) :
    decode ({ c with data := data } : TriggerCall).encode = .ok { c with data := data } :=
  have hfits := fits_of_decode h
  decode_encode_of_lengths hfits.owner hfits.contract hdata

end TriggerCall

namespace Transaction

variable {t t' : Transaction} {data : Bytes}

/-! ## When there is no call -/

/-- What a transaction lacks to carry a call, with the error that says so. -/
inductive Lacks (t : Transaction) : Error → Prop
  | raw (h : t.raw = none) : Lacks t .noRaw
  | contract {raw : RawTransaction} (hraw : t.raw = some raw) (h : raw.contracts = []) : Lacks t .noContract
  | kind {raw : RawTransaction} {contract : Contract} {later : List Contract} (hraw : t.raw = some raw)
      (hcontracts : raw.contracts = contract :: later) (h : contract.kind ≠ TriggerCall.contractKind) :
      Lacks t (.otherKind contract.kind)
  | parameter {raw : RawTransaction} {contract : Contract} {later : List Contract} (hraw : t.raw = some raw)
      (hcontracts : raw.contracts = contract :: later) (hkind : contract.kind = TriggerCall.contractKind)
      (h : contract.parameter = none) : Lacks t .noParameter
  | encoding {raw : RawTransaction} {contract : Contract} {parameter : Parameter} {later : List Contract}
      {cause : Wire.DecodeError} (hraw : t.raw = some raw) (hcontracts : raw.contracts = contract :: later)
      (hkind : contract.kind = TriggerCall.contractKind) (hparameter : contract.parameter = some parameter)
      (h : TriggerCall.decode parameter.value = .error cause) :
      Lacks t (.callEncoding cause)

/-- A transaction that lacks something has no call, and the error names what is lacking. -/
theorem call_of_lacks {e : Error} (h : t.Lacks e) : t.call = .error e := by
  cases h with
  | raw h =>
    simp only [call, callHolder, getRaw, h]
    rfl
  | contract hraw h =>
    simp only [call, callHolder, getRaw, hraw, Result.ok_bind, h]
    rfl
  | kind hraw hcontracts h =>
    simp only [call, callHolder, getRaw, hraw, Result.ok_bind, hcontracts, ne_eq, h, not_false_eq_true, if_true]
    rfl
  | parameter hraw hcontracts hkind h =>
    simp only [call, callHolder, getRaw, hraw, Result.ok_bind, hcontracts, ne_eq, hkind, not_true_eq_false, if_false, h]
    rfl
  | encoding hraw hcontracts hkind hparameter h =>
    simp only [call, callHolder_eq_ok.mpr ⟨hraw, hcontracts, hkind, hparameter⟩, Result.ok_bind, h]
    rfl

/-- A transaction carries a call unless it lacks something, looked for from the outside in. -/
theorem call_or_lacks (t : Transaction) : (∃ call, t.call = .ok call) ∨ ∃ e, t.Lacks e := by
  cases hraw : t.raw with
  | none => exact .inr ⟨_, .raw hraw⟩
  | some raw =>
    cases hcontracts : raw.contracts with
    | nil => exact .inr ⟨_, .contract hraw hcontracts⟩
    | cons contract later =>
      by_cases hkind : contract.kind = TriggerCall.contractKind
      · cases hparameter : contract.parameter with
        | none => exact .inr ⟨_, .parameter hraw hcontracts hkind hparameter⟩
        | some parameter =>
          cases hdecode : TriggerCall.decode parameter.value with
          | error cause => exact .inr ⟨_, .encoding hraw hcontracts hkind hparameter hdecode⟩
          | ok call =>
            have hholder := callHolder_eq_ok.mpr ⟨hraw, hcontracts, hkind, hparameter⟩
            exact .inl ⟨call, call_eq_ok.mpr ⟨raw, contract, parameter, later, hholder, hdecode⟩⟩
      · exact .inr ⟨_, .kind hraw hcontracts hkind⟩

/-- A transaction has no call exactly when it lacks something. -/
theorem call_eq_error_iff {e : Error} : t.call = .error e ↔ t.Lacks e := by
  refine ⟨fun h => ?_, call_of_lacks⟩
  rcases call_or_lacks t with ⟨call, hcall⟩ | ⟨e', hlacks⟩
  · nomatch hcall.symm.trans h
  · cases (call_of_lacks hlacks).symm.trans h
    exact hlacks

/-! ## The transaction with the new data -/

/-- The transaction with other octets in the parameter of its first contract, if there is one. -/
def putCallOctets (octets : Bytes) (t : Transaction) : Transaction :=
  { t with raw := t.raw.map fun raw => { raw with contracts := raw.contracts.modifyHead fun contract =>
      { contract with parameter := contract.parameter.map ({ · with value := octets }) } } }

/-- Octets that are put over others leave no trace of those. -/
theorem putCallOctets_putCallOctets (octets octets2 : Bytes) (t : Transaction) :
    (t.putCallOctets octets).putCallOctets octets2 = t.putCallOctets octets2 := by
  simp [putCallOctets, Function.comp_def]

/-- Replacing the call's octets keeps the block that is referred to. -/
theorem map_blockRef_putCallOctets (octets : Bytes) (t : Transaction) :
    (t.putCallOctets octets).raw.map RawTransaction.blockRef = t.raw.map RawTransaction.blockRef :=
  Option.map_map ..

/-- Replacing the call's octets changes the first contract's parameter and nothing else. -/
theorem putCallOctets_of_callHolder {raw : RawTransaction} {contract : Contract} {parameter : Parameter}
    {later : List Contract} (h : t.callHolder = .ok (raw, contract, parameter, later)) (octets : Bytes) :
    t.putCallOctets octets = { t with raw := some { raw with
      contracts := { contract with parameter := some { parameter with value := octets } } :: later } } := by
  obtain ⟨hraw, hcontracts, -, hparameter⟩ := callHolder_eq_ok.mp h
  simp only [putCallOctets, hraw, hcontracts, hparameter, Option.map_some, List.modifyHead_cons]

/-- What is put in is what is read. -/
theorem call_putCallOctets {octets : Bytes} {old call : TriggerCall} (hold : t.call = .ok old)
    (hdecode : TriggerCall.decode octets = .ok call) : (t.putCallOctets octets).call = .ok call := by
  obtain ⟨raw, contract, parameter, later, hholder, -⟩ := call_eq_ok.mp hold
  obtain ⟨-, -, hkind, -⟩ := callHolder_eq_ok.mp hholder
  rw [putCallOctets_of_callHolder hholder]
  exact call_eq_ok.mpr ⟨_, _, _, later, callHolder_eq_ok.mpr ⟨rfl, rfl, hkind, rfl⟩, hdecode⟩

/-- Other data is set in a call by putting in its encoding. -/
theorem setCallData_of_call {call : TriggerCall} (hcall : t.call = .ok call) :
    t.setCallData data = .ok (t.putCallOctets ({ call with data := data } : TriggerCall).encode) := by
  obtain ⟨raw, contract, parameter, later, hholder, -⟩ := call_eq_ok.mp hcall
  exact setCallData_eq_ok.mpr
    ⟨raw, contract, parameter, later, call, hholder, hcall, putCallOctets_of_callHolder hholder _⟩

/-- Nothing is replaced in a transaction that lacks something. -/
theorem setCallData_of_lacks {e : Error} (h : t.Lacks e) : t.setCallData data = .error e := by
  have hcall := call_of_lacks h
  cases hholder : t.callHolder with
  | error e' =>
    have hsame : t.call = .error e' := by
      rw [call, hholder]
      rfl
    cases hsame.symm.trans hcall
    rw [setCallData, hholder]
    rfl
  | ok holder =>
    rw [setCallData, hholder, Result.ok_bind, hcall]
    rfl

/-! ## More contracts -/

/-- A contract more is no longer the first, which holds the call. -/
theorem callHolder_of_addContract {t' : Transaction} {raw : RawTransaction} {contract added : Contract}
    {parameter : Parameter} {later : List Contract} (hholder : t.callHolder = .ok (raw, contract, parameter, later))
    (h : t.addContract added = .ok t') :
    t'.callHolder =
      .ok ({ raw with contracts := raw.contracts ++ [added] }, contract, parameter, later ++ [added]) := by
  obtain ⟨hraw, hcontracts, hkind, hparameter⟩ := callHolder_eq_ok.mp hholder
  obtain ⟨raw', hraw', rfl⟩ := addContract_eq_ok.mp h
  obtain rfl : raw = raw' := Option.some.inj (hraw.symm.trans hraw')
  exact callHolder_eq_ok.mpr ⟨rfl, by rw [hcontracts, List.cons_append], hkind, hparameter⟩

/-- A transaction that carries a call carries the same call with a contract more, and it does not matter whether other
data is set in the call before or after that contract is added. -/
theorem setCallData_addContract {t' : Transaction} {call : TriggerCall} {added : Contract} (hcall : t.call = .ok call)
    (h : t.addContract added = .ok t') :
    t'.call = .ok call ∧ ∀ data, t'.setCallData data = (t.setCallData data).bind (·.addContract added) := by
  obtain ⟨raw, contract, parameter, later, hholder, hdecode⟩ := call_eq_ok.mp hcall
  have hholder' := callHolder_of_addContract hholder h
  have hcall' : t'.call = .ok call := call_eq_ok.mpr ⟨_, _, _, _, hholder', hdecode⟩
  refine ⟨hcall', fun data => ?_⟩
  obtain ⟨raw', hraw', ht'⟩ := addContract_eq_ok.mp h
  obtain ⟨hraw, hcontracts, -⟩ := callHolder_eq_ok.mp hholder
  obtain rfl : raw = raw' := Option.some.inj (hraw.symm.trans hraw')
  rw [setCallData_of_call hcall', setCallData_of_call hcall, putCallOctets_of_callHolder hholder',
    putCallOctets_of_callHolder hholder, ht']
  exact (addContract_eq_ok.mpr ⟨_, rfl, by rw [List.cons_append]⟩).symm

/-! ## In place -/

/-- The step on the place that holds a transaction: the call is read from it and encoded with other data, and the octets
are put in. -/
def replaceCallData (data : Bytes) : ExceptT Error (StateM Transaction) Unit := do
  let call ← MonadExcept.ofExcept (← get).call
  let octets := ({ call with data := data } : TriggerCall).encode
  let _ ← MonadExcept.ofExcept (← get).getRaw
  modify (putCallOctets octets)

section

variable {α β : Type} (t : Transaction)

/-- Looking at the transaction hands it on. -/
theorem run_get_bind (f : Transaction → ExceptT Error (StateM Transaction) α) :
    (get >>= f).run.run t = (f t).run.run t :=
  rfl

/-- A result is handed on, and the transaction stays. -/
theorem run_ok_bind (a : α) (f : α → ExceptT Error (StateM Transaction) β) :
    (MonadExcept.ofExcept (.ok a : Except Error α) >>= f).run.run t = (f a).run.run t :=
  rfl

/-- An error ends the run, and the transaction stays. -/
theorem run_error_bind (e : Error) (f : α → ExceptT Error (StateM Transaction) β) :
    (MonadExcept.ofExcept (.error e : Except Error α) >>= f).run.run t = (.error e, t) :=
  rfl

end

/-- Replacing the data of a transaction that has a call puts the call's new octets in its place. -/
theorem run_replaceCallData_of_call {call : TriggerCall} (hcall : t.call = .ok call) :
    (replaceCallData data).run.run t =
    (.ok (), t.putCallOctets ({ call with data := data } : TriggerCall).encode) := by
  obtain ⟨raw, _, _, _, hholder, -⟩ := call_eq_ok.mp hcall
  obtain ⟨hraw, -⟩ := callHolder_eq_ok.mp hholder
  rw [replaceCallData, run_get_bind, hcall, run_ok_bind]
  dsimp only
  rw [run_get_bind, getRaw_eq_ok.mpr hraw, run_ok_bind]
  rfl

/-- Nothing has been put in when the step fails. -/
theorem run_replaceCallData_of_lacks {e : Error} (h : t.Lacks e) :
    (replaceCallData data).run.run t = (.error e, t) := by
  rw [replaceCallData, run_get_bind, call_of_lacks h, run_error_bind]

/-- Replacing the data in the call of a transaction fails exactly when no call can be read, with the same error, and
then leaves the place of the transaction alone. Else the call that was read has the new data, nothing but its octets has
changed, the block that the transaction runs against included, and replacing the data once more comes to the same as
doing only that. -/
theorem setCallData_replaces {data : Bytes} (hdata : data.length < UInt64.size) (t : Transaction) :
    (∀ e, t.call = .error e ↔ t.Lacks e) ∧
      (∀ e, t.Lacks e → t.setCallData data = .error e ∧ (replaceCallData data).run.run t = (.error e, t)) ∧
      ∀ call, t.call = .ok call → ∃ t', t.setCallData data = .ok t' ∧ (replaceCallData data).run.run t = (.ok (), t') ∧
        t'.call = .ok { call with data := data } ∧
        t' = t.putCallOctets ({ call with data := data } : TriggerCall).encode ∧
        t'.raw.map RawTransaction.blockRef = t.raw.map RawTransaction.blockRef ∧
        ∀ data2, t'.setCallData data2 = t.setCallData data2 := by
  refine ⟨fun e => call_eq_error_iff, fun e h => ⟨setCallData_of_lacks h, run_replaceCallData_of_lacks h⟩,
    fun call hcall => ?_⟩
  obtain ⟨raw, contract, parameter, later, hholder, hdecode⟩ := call_eq_ok.mp hcall
  have hcall' : (t.putCallOctets _).call = .ok { call with data := data } :=
    call_putCallOctets hcall (TriggerCall.decode_encode_withData hdecode hdata)
  refine ⟨_, setCallData_of_call hcall, run_replaceCallData_of_call hcall, hcall', rfl, map_blockRef_putCallOctets _ t,
    fun data2 => ?_⟩
  rw [setCallData_of_call hcall', setCallData_of_call hcall, putCallOctets_putCallOctets]

/-- A transaction whose call has its data in front of its owner, an owner that is given twice and a field that calls do
not have. -/
def reorderedCall : Transaction :=
  let octets := bytesField 4 [1] ++ bytesField 1 [65] ++ bytesField 9 [5, 5] ++ bytesField 1 [66]
  { raw := some
      { contracts := [{ kind := 31, parameter := some { typeUrl := "call", value := octets }, permission := 2 }, {}] },
    signatures := [[1, 2, 3]] }

/-- The data is replaced in a call whose fields stand in another order than they are written in. -/
theorem setCallData_replaces_reordered :
    ([7, 8] : Bytes).length < UInt64.size ∧ reorderedCall.call = .ok { owner := [66], data := [1] } ∧
      (∃ t', reorderedCall.setCallData [7, 8] = .ok t' ∧ t'.call = .ok { owner := [66], data := [7, 8] } ∧
        t'.setCallData [] = reorderedCall.setCallData []) ∧
      (replaceCallData [7, 8]).run.run {} = (.error .noRaw, {}) := by
  have hlength : ([7, 8] : Bytes).length < UInt64.size := by decide
  have hcall : reorderedCall.call = .ok { owner := [66], data := [1] } := by cbv
  obtain ⟨t', hset, -, hcall', -, -, hagain⟩ := (setCallData_replaces hlength reorderedCall).2.2 _ hcall
  exact ⟨hlength, hcall, ⟨t', hset, hcall', hagain []⟩, ((setCallData_replaces hlength {}).2.1 _ (.raw rfl)).2⟩

end Transaction

end CheckpointRelay
