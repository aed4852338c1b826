import CheckpointRelay.Proofs.Controller.Selectors

/-!
# Batches read back

The calls of a batch are read from the calldata that carries them, each call with its arguments from its own calldata,
and the asserted tip from the call that asserts it.
-/

namespace CheckpointRelay

namespace Multicall

/-- The calls of a batch are read from its calldata, whatever follows. -/
theorem decode_encode {calls : List Bytes} {back : Bytes} (h : (encode calls ++ back).length < Bytes.maxLength) :
    decode (encode calls ++ back) = .ok calls := by
  have hselector : (encode calls ++ back).take 4 = (Abi.selector Signature.multicall).bytes := by
    rw [encode, Abi.callWithTail, List.append_assoc, Abi.take_call]
  rw [decode, if_pos hselector]
  exact Result.mapError_eq_ok.mpr (Abi.bytesArrayOf_callWithTail h)

/-- An encoded batch is read back as its calls. -/
theorem decode_encode_self {calls : List Bytes} (h : (encode calls).length < Bytes.maxLength) :
    decode (encode calls) = .ok calls := by
  have hread := @decode_encode calls [] (by rwa [List.append_nil])
  rwa [List.append_nil] at hread

/-- A batch is the selector, one offset word, the count, one offset for each call, and the encoded calls. -/
theorem length_encode (calls : List Bytes) :
    (encode calls).length = 68 + 32 * calls.length + (calls.flatMap Abi.ofBytes).length := by
  rw [encode, Abi.callWithTail, List.length_append, Abi.length_call, Abi.length_ofBytesArray_eq, List.nil_append,
    List.length_singleton]
  omega

/-- A batch is no longer than one with more calls. -/
theorem length_encode_le_append (calls more : List Bytes) :
    (encode calls).length ≤ (encode (calls ++ more)).length := by
  rw [length_encode, length_encode, List.flatMap_append, List.length_append, List.length_append]
  omega

/-- A call is no longer than a batch in which it stands. -/
theorem length_le_encode {calls : List Bytes} {call : Bytes} (h : call ∈ calls) :
    call.length ≤ (encode calls).length := by
  obtain ⟨front, back, rfl⟩ := List.append_of_mem h
  have hcall := Abi.le_paddedLength call.length
  rw [length_encode, List.flatMap_append, List.flatMap_cons, List.length_append, List.length_append, List.length_append,
    Abi.length_ofBytes]
  omega

end Multicall

namespace ControllerCall

/-- The arguments of a call are read from what stands behind its selector. -/
def ArgumentsIn (data : Bytes) : ControllerCall → Prop
  | .pullFromReceivers token salts => Abi.addressOf data 0 = .ok token ∧ Abi.wordsOf data 1 = .ok salts
  | .rebalanceUsdt rebalancer amount => Abi.addressOf data 0 = .ok rebalancer ∧ Abi.uint256Of data 1 = .ok amount
  | .isEventChainTip tip => Abi.wordOf data 0 = .ok tip

/-- A pull's token and salts stand in its encoding. -/
theorem argumentsIn_pullFromReceivers {token : Address} {salts : List Word}
    (h : (encode (.pullFromReceivers token salts)).length < Bytes.maxLength) :
    ArgumentsIn ((encode (.pullFromReceivers token salts)).drop 4) (.pullFromReceivers token salts) := by
  have hcall : encode (.pullFromReceivers token salts) = Abi.callWithTail (Abi.selector Signature.pullFromReceivers)
      [Abi.ofAddress token] (Abi.ofWords salts) ++ [] := (List.append_nil _).symm
  rw [hcall] at h ⊢
  have hwords := (Abi.standsAt_callWithTail (Abi.selector Signature.pullFromReceivers) [Abi.ofAddress token]
      (Abi.ofWords salts) []).1
  have htoken := Abi.addressOf_of_standsAt (Abi.length_drop_lt h) (Abi.standsAt_word hwords 0 (Nat.zero_lt_succ 1))
  have hsalts := Abi.wordsOf_callWithTail h
  rw [List.length_singleton] at hsalts
  exact ⟨htoken, hsalts⟩

/-- A rebalancing's rebalancer and amount stand in its encoding. -/
theorem argumentsIn_rebalanceUsdt (rebalancer : Address) (amount : Uint256) :
    ArgumentsIn ((encode (.rebalanceUsdt rebalancer amount)).drop 4) (.rebalanceUsdt rebalancer amount) := by
  have hdata : (encode (.rebalanceUsdt rebalancer amount)).drop 4 =
      Abi.words [Abi.ofAddress rebalancer, amount.toWord] :=
    List.drop_left' (Abi.selector Signature.rebalanceUsdt).length_eq
  have hwords := Abi.StandsAt.self (Abi.words [Abi.ofAddress rebalancer, amount.toWord])
  have hlength : (Abi.words [Abi.ofAddress rebalancer, amount.toWord]).length < Bytes.maxLength :=
    Nat.lt_of_le_of_lt (Nat.le_of_eq (Abi.length_words _)) (show 32 * 2 < Bytes.maxLength by decide)
  rw [hdata]
  exact ⟨Abi.addressOf_of_standsAt hlength (Abi.standsAt_word hwords 0 (Nat.zero_lt_succ 1)),
    Abi.uint256Of_of_standsAt hlength (Abi.standsAt_word hwords 1 (Nat.lt_succ_self 1))⟩

/-- An assertion's tip stands in its encoding. -/
theorem argumentsIn_isEventChainTip (tip : Tip) :
    ArgumentsIn ((encode (.isEventChainTip tip)).drop 4) (.isEventChainTip tip) := by
  have hdata : (encode (.isEventChainTip tip)).drop 4 = Abi.words [tip] :=
    List.drop_left' (Abi.selector Signature.isEventChainTip).length_eq
  have hword := Abi.standsAt_word (.self (Abi.words [tip])) 0 (Nat.zero_lt_succ 0)
  rw [hdata]
  exact Abi.wordOf_of_standsAt
    (Nat.lt_of_le_of_lt (Nat.le_of_eq (Abi.length_words _)) (show 32 * 1 < Bytes.maxLength by decide)) hword

/-- Every call tells its arguments behind its selector. -/
theorem argumentsIn_encode {call : ControllerCall} (h : call.encode.length < Bytes.maxLength) :
    ArgumentsIn (call.encode.drop 4) call := by
  cases call with
  | pullFromReceivers token salts => exact argumentsIn_pullFromReceivers h
  | rebalanceUsdt rebalancer amount => exact argumentsIn_rebalanceUsdt rebalancer amount
  | isEventChainTip tip => exact argumentsIn_isEventChainTip tip

/-- A pull is 100 octets and one word for each salt. -/
theorem length_encode_pullFromReceivers (token : Address) (salts : List Word) :
    (encode (.pullFromReceivers token salts)).length = 100 + 32 * salts.length := by
  rw [encode, Abi.callWithTail, List.length_append, Abi.length_call, Abi.length_ofWords, List.length_append,
    List.length_singleton, List.length_singleton]
  omega

/-- The declaration of the function that a call calls. -/
def signature : ControllerCall → String
  | .pullFromReceivers .. => Signature.pullFromReceivers
  | .rebalanceUsdt .. => Signature.rebalanceUsdt
  | .isEventChainTip .. => Signature.isEventChainTip

/-- A call begins with the selector of its signature. -/
theorem take_encode (call : ControllerCall) : call.encode.take 4 = (Abi.selector call.signature).bytes := by
  cases call with
  | pullFromReceivers token salts => rw [encode, Abi.callWithTail, Abi.take_call, signature]
  | rebalanceUsdt rebalancer amount => exact List.take_left' (Abi.selector _).length_eq
  | isEventChainTip tip => exact List.take_left' (Abi.selector _).length_eq

end ControllerCall

/-- The tip that a call asserts, if it asserts one. -/
def assertedTip? (call : Bytes) : Option Tip :=
  if call.take 4 = (Abi.selector Signature.isEventChainTip).bytes then (Abi.wordOf (call.drop 4) 0).toOption else none

/-- The tip an encoded assertion asserts is found in it. -/
theorem assertedTip?_encode (tip : Tip) : assertedTip? (ControllerCall.isEventChainTip tip).encode = some tip := by
  have hword : Abi.wordOf ((ControllerCall.isEventChainTip tip).encode.drop 4) 0 = .ok tip :=
    ControllerCall.argumentsIn_isEventChainTip tip
  rw [assertedTip?, ControllerCall.take_encode, ControllerCall.signature, if_pos rfl, hword]
  rfl

namespace ControllerCall

/-- The call that calldata makes, if it is one of the controller's. -/
def decode? (calldata : Bytes) : Option ControllerCall :=
  if calldata.take 4 = (Abi.selector Signature.pullFromReceivers).bytes then do
    let token ← (Abi.addressOf (calldata.drop 4) 0).toOption
    let salts ← (Abi.wordsOf (calldata.drop 4) 1).toOption
    return .pullFromReceivers token salts
  else if calldata.take 4 = (Abi.selector Signature.rebalanceUsdt).bytes then do
    let rebalancer ← (Abi.addressOf (calldata.drop 4) 0).toOption
    let amount ← (Abi.uint256Of (calldata.drop 4) 1).toOption
    return .rebalanceUsdt rebalancer amount
  else (assertedTip? calldata).map .isEventChainTip

/-- The controller tells its functions apart by their selectors. -/
theorem selectors_ne :
    (Abi.selector Signature.rebalanceUsdt).bytes ≠ (Abi.selector Signature.pullFromReceivers).bytes ∧
      (Abi.selector Signature.isEventChainTip).bytes ≠ (Abi.selector Signature.pullFromReceivers).bytes ∧
      (Abi.selector Signature.isEventChainTip).bytes ≠ (Abi.selector Signature.rebalanceUsdt).bytes := by
  rw [Abi.bytes_selector_eq (by decide), Abi.bytes_selector_eq (by decide), Abi.bytes_selector_eq (by decide)]
  decide

/-- A call is read from its own calldata. -/
theorem decode?_encode {call : ControllerCall} (h : call.encode.length < Bytes.maxLength) :
    decode? call.encode = some call := by
  have harguments := argumentsIn_encode h
  cases call with
  | pullFromReceivers token salts =>
    obtain ⟨htoken, hsalts⟩ := harguments
    rw [decode?, take_encode, signature, if_pos rfl, htoken, hsalts]
    rfl
  | rebalanceUsdt rebalancer amount =>
    obtain ⟨hrebalancer, hamount⟩ := harguments
    rw [decode?, take_encode, signature, if_neg selectors_ne.1, if_pos rfl, hrebalancer, hamount]
    rfl
  | isEventChainTip tip =>
    rw [decode?, take_encode, signature, if_neg selectors_ne.2.1, if_neg selectors_ne.2.2, assertedTip?_encode]
    rfl

/-- Encoded calls are read back one by one, whatever they are. -/
theorem mapM_decode?_encode {calls : List ControllerCall} (h : ∀ call ∈ calls, call.encode.length < Bytes.maxLength) :
    (calls.map encode).mapM decode? = some calls := by
  induction calls with
  | nil => rfl
  | cons call calls ih =>
    obtain ⟨hcall, hcalls⟩ := List.forall_mem_cons.mp h
    rw [List.map_cons, List.mapM_cons, decode?_encode hcall, ih hcalls]
    rfl

/-- No call of a batch is too long to be read. -/
theorem mapM_decode?_of_batch {calls : List ControllerCall}
    (h : (Multicall.encode (calls.map encode)).length < Bytes.maxLength) :
    (calls.map encode).mapM decode? = some calls :=
  mapM_decode?_encode fun _ hcall => Nat.lt_of_le_of_lt (Multicall.length_le_encode (List.mem_map_of_mem hcall)) h

/-- Calldata of a batch stands for one list of calls. -/
theorem encode_batch_injective {calls calls' : List ControllerCall}
    (h : (Multicall.encode (calls.map encode)).length < Bytes.maxLength)
    (heq : Multicall.encode (calls.map encode) = Multicall.encode (calls'.map encode)) : calls = calls' := by
  have hencoded : calls.map encode = calls'.map encode := by
    have hread := Multicall.decode_encode_self h
    rw [heq, Multicall.decode_encode_self (heq ▸ h)] at hread
    exact (Except.ok.inj hread).symm
  have hback := mapM_decode?_of_batch h
  rw [hencoded, mapM_decode?_of_batch (heq ▸ h)] at hback
  exact (Option.some.inj hback).symm

/-- The calldata of a batch is that of no other calls, and each call in it tells its arguments. -/
theorem calldata_determines_calls :
    (∀ calls calls' : List ControllerCall, (Multicall.encode (calls.map encode)).length < Bytes.maxLength →
      (Multicall.encode (calls.map encode) = Multicall.encode (calls'.map encode) ↔ calls = calls')) ∧
    ∀ call : ControllerCall, call.encode.length < Bytes.maxLength → ArgumentsIn (call.encode.drop 4) call := by
  refine ⟨fun calls calls' h => ⟨encode_batch_injective h, ?_⟩, fun call h => argumentsIn_encode h⟩
  rintro rfl
  rfl

/-- The account of twenty zeros. -/
def sampleToken : Address :=
  ⟨Octets.ofNat 20 0⟩

/-- Two salts in one sweep or in two, and a sweep of none: other calls, other calldata. -/
theorem calldata_determines_calls_sample :
    let together : List ControllerCall := [.pullFromReceivers sampleToken [Octets.ofNat 32 1, Octets.ofNat 32 2],
      .pullFromReceivers sampleToken []]
    let apart : List ControllerCall := [.pullFromReceivers sampleToken [Octets.ofNat 32 1],
      .pullFromReceivers sampleToken [Octets.ofNat 32 2]]
    (Multicall.encode (together.map encode)).length < Bytes.maxLength ∧
      Multicall.encode (together.map encode) ≠ Multicall.encode (apart.map encode) ∧
      Abi.wordsOf ((encode (.pullFromReceivers sampleToken [])).drop 4) 1 = .ok [] := by
  intro together apart
  have hlength : (Multicall.encode (together.map encode)).length < Bytes.maxLength := by
    simp only [together, Multicall.length_encode, List.map_cons, List.map_nil, List.flatMap_cons, List.flatMap_nil,
      List.length_append, Abi.length_ofBytes, length_encode_pullFromReceivers]
    decide
  have hnone : (encode (.pullFromReceivers sampleToken [])).length < Bytes.maxLength := by
    rw [length_encode_pullFromReceivers]
    decide
  exact ⟨hlength, fun heq => absurd ((calldata_determines_calls.1 together apart hlength).mp heq) (by decide),
    (calldata_determines_calls.2 _ hnone).2⟩

end ControllerCall

end CheckpointRelay
