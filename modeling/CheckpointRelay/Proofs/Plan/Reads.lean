import CheckpointRelay.Proofs.Abi.Reading
import CheckpointRelay.Proofs.Dialogue.Answered
import CheckpointRelay.Proofs.Plan.Chain

/-!
# What planning reads from the chain

A reader answers for the chain when every read has the encoding of the chain's state as its answer (`Reader.Answers`).
`outcome` is a step of planning with its questions answered by a reader; `outcome_bind` takes a sequence of steps apart,
and every kind of read then gives what the chain holds.
-/

namespace CheckpointRelay.Plan

/-- Whoever answers the questions of planning, always alike. -/
abbrev Reader : Type := (q : Read) → q.Answer

/-- The answer to a batch that asks for the receivers of salts: an array with the answer to each. -/
def Chain.encodedReceivers (chain : Chain) (salts : List Word) : Bytes :=
  (Abi.ofLength 32).bytes ++ Abi.ofBytesArray (salts.map fun salt => (Abi.ofAddress (chain.receiver salt)).bytes)

/-- The answer to the question for the route of a rebalancer. -/
def Chain.encodedPayload (chain : Chain) (rebalancer : Address) : Bytes :=
  (Abi.ofLength 32).bytes ++ Abi.ofBytes (chain.payload rebalancer)

/-- The reader answers what planning the calls asks with the encodings of the state of the chain. -/
structure Reader.Answers (reader : Reader) (chain : Chain) (controller : Address) (calls : List ControllerCall) :
    Prop where
  usdt : reader (.contract controller (readCall Signature.usdt)) = .ok (Abi.ofAddress chain.usdt).bytes
  rate : ∀ token, reader (.contract controller (addressReadCall Signature.lpExchangeRateFor token)) =
    .ok (chain.rate token).toWord.bytes
  balance : ∀ token account,
    reader (.contract token (addressReadCall Signature.balanceOf account)) =
      .ok (chain.balance token account).toWord.bytes
  deployed : ∀ account, reader (.deployed account) = .ok (chain.deployed account)
  /-- Receivers are asked for in one batch, each salt of a call at most once. -/
  receivers : ∀ token salts asked, .pullFromReceivers token salts ∈ calls → asked ⊆ salts → asked.Nodup →
    reader (.contract controller (predictionCall asked)) = .ok (chain.encodedReceivers asked)
  payload : ∀ rebalancer,
    reader (.contract controller (addressReadCall Signature.payloadFor rebalancer)) =
      .ok (chain.encodedPayload rebalancer)
  feeBps : ∀ oft, reader (.contract oft (readCall Signature.feeBps)) = .ok (chain.feeBps oft).toWord.bytes
  bpsDenominator : ∀ oft,
    reader (.contract oft (readCall Signature.bpsDenominator)) = .ok (chain.bpsDenominator oft).toWord.bytes
  /-- An answer is a byte string, of no more octets than there are addresses for. -/
  fits : ∀ a calldata data, reader (.contract a calldata) = .ok data → data.length < Bytes.maxLength

/-! ## The batch that asks for receivers -/

/-- The call that asks for the receiver of a salt, as an item of a batch. -/
theorem length_predictionItem (salt : Word) :
    (Abi.ofBytes (Abi.call (Abi.selector Signature.predictReceiverAddress) [salt])).length = 96 := by
  rw [Abi.length_ofBytes, Abi.length_call, List.length_singleton]
  rfl

/-- A question for receivers is 68 octets and four words for each salt. -/
theorem length_predictionCall (salts : List Word) : (predictionCall salts).length = 68 + 128 * salts.length := by
  have hitems : ∀ item ∈ salts.map fun salt =>
      Abi.call (Abi.selector Signature.predictReceiverAddress) [salt], item.length = 36 := by
    intro item hitem
    obtain ⟨salt, -, rfl⟩ := List.mem_map.mp hitem
    exact Abi.length_call _ _
  have hpadded : Abi.paddedLength 36 = 64 := rfl
  rw [predictionCall, Multicall.encode, Abi.callWithTail, List.length_append, Abi.length_call,
    Abi.length_ofBytesArray hitems, hpadded, List.length_map, List.nil_append, List.length_singleton]
  omega

/-- The batch tells the salts that it asks for. -/
theorem predictionCall_injective {salts salts' : List Word} (h : predictionCall salts = predictionCall salts') :
    salts = salts' := by
  have hcount : salts.length = salts'.length := by
    have hlength := congrArg List.length h
    rw [length_predictionCall, length_predictionCall] at hlength
    omega
  have htail := List.append_cancel_left h
  rw [Abi.ofBytesArray, Abi.ofBytesArray, List.length_map, List.length_map, hcount, List.append_assoc,
    List.append_assoc] at htail
  have hitems := (List.append_inj (List.append_cancel_left htail) (by simp [hcount])).2
  rw [List.flatMap_map, List.flatMap_map] at hitems
  refine Bytes.flatMap_injective (by decide) length_predictionItem ?_ hitems
  intro salt salt' hsalt
  rw [Abi.ofBytes, Abi.ofBytes, Abi.length_call, Abi.length_call, List.length_singleton, List.length_singleton] at hsalt
  have hcall := (List.append_inj (List.append_cancel_left hsalt) (by rw [Abi.length_call, Abi.length_call]; rfl)).1
  have hwords := List.append_cancel_left hcall
  rw [Abi.words, Abi.words, List.flatMap_singleton, List.flatMap_singleton] at hwords
  exact Octets.ext hwords

/-- A question without arguments is no question for receivers. -/
theorem readCall_ne_predictionCall (signature : String) (salts : List Word) :
    readCall signature ≠ predictionCall salts := by
  intro h
  have hlength := congrArg List.length h
  have hread : (readCall signature).length = 4 := Abi.length_call _ _
  rw [hread, length_predictionCall] at hlength
  omega

/-- A question about an address is no question for receivers. -/
theorem addressReadCall_ne_predictionCall (signature : String) (a : Address) (salts : List Word) :
    addressReadCall signature a ≠ predictionCall salts := by
  intro h
  have hlength := congrArg List.length h
  have hread : (addressReadCall signature a).length = 36 := Abi.length_call _ _
  rw [hread, length_predictionCall] at hlength
  omega

/-! ## Steps of planning with their questions answered -/

/-- The result of a step of planning and the caches after it, when a reader answers its questions. -/
def outcome {α : Type} (reader : Reader) (caches : Caches) (step : PlanM α) : Except Cause (α × Caches) :=
  (step.run caches).run.answered reader

section

variable {α β : Type} {reader : Reader} {caches : Caches}

/-- Returning a value comes out as the value and leaves the caches. -/
@[simp] theorem outcome_pure (a : α) : outcome reader caches (pure a) = .ok (a, caches) := rfl

/-- Failing comes out as the cause. -/
@[simp] theorem outcome_throw (cause : Cause) : outcome reader caches (throw cause : PlanM α) = .error cause := rfl

/-- Looking at the caches leaves them. -/
@[simp] theorem outcome_get : outcome reader caches get = .ok (caches, caches) := rfl

/-- Changing the caches comes out with the changed ones. -/
@[simp] theorem outcome_modify (f : Caches → Caches) : outcome reader caches (modify f) = .ok ((), f caches) := rfl

/-- A question comes out as the reader's answer. -/
@[simp] theorem outcome_ask (q : Read) : outcome reader caches (ask q) = .ok (reader q, caches) := rfl

/-- An answer that is no error comes out. -/
@[simp] theorem outcome_ofAnswer (told : Report → Cause) (a : α) :
    outcome reader caches (ofAnswer told (.ok a)) = .ok (a, caches) := rfl

/-- What is decoded comes out. -/
@[simp] theorem outcome_ofDecoded (told : Abi.DecodeError → Cause) (a : α) :
    outcome reader caches (ofDecoded told (.ok a)) = .ok (a, caches) := rfl

/-- Two steps in sequence come out as the second does with the value and the caches of the first. -/
theorem outcome_bind (step : PlanM α) (next : α → PlanM β) :
    outcome reader caches (step >>= next) = outcome reader caches step >>= fun r => outcome reader r.2 (next r.1) :=
  Dialogue.answered_except_bind (step.run caches) _

/-- A step that comes out is followed by the rest. -/
theorem outcome_bind_of_ok {step : PlanM α} {next : α → PlanM β} {a : α} {caches' : Caches}
    (h : outcome reader caches step = .ok (a, caches')) :
    outcome reader caches (step >>= next) = outcome reader caches' (next a) := by
  rw [outcome_bind, h, Result.ok_bind]

/-- What follows a step that fails does not matter. -/
theorem outcome_bind_of_error {step : PlanM α} {next : α → PlanM β} {cause : Cause}
    (h : outcome reader caches step = .error cause) : outcome reader caches (step >>= next) = .error cause := by
  rw [outcome_bind, h]
  rfl

/-- A contract that answers with data is read as the data. -/
theorem outcome_readContract {a : Address} {calldata data : Bytes} {told : Report → Cause}
    (h : reader (.contract a calldata) = .ok data) :
    outcome reader caches (readContract a calldata told) = .ok (data, caches) := by
  rw [readContract, outcome_bind_of_ok (outcome_ask _), h, outcome_ofAnswer]

/-- A contract that answers with a number, whatever stands behind it, is read as the number. -/
theorem outcome_readNumber_of_uint256Of {a : Address} {calldata data : Bytes} {x : Uint256}
    (h : reader (.contract a calldata) = .ok data) (hnumber : Abi.uint256Of data 0 = .ok x) :
    outcome reader caches (readNumber a calldata) = .ok (x, caches) := by
  rw [readNumber, outcome_bind_of_ok (outcome_readContract h), hnumber, outcome_ofDecoded]

/-- A contract that answers with the word of a number is read as the number. -/
theorem outcome_readNumber {a : Address} {calldata : Bytes} {x : Uint256}
    (h : reader (.contract a calldata) = .ok x.toWord.bytes) :
    outcome reader caches (readNumber a calldata) = .ok (x, caches) :=
  outcome_readNumber_of_uint256Of h (Abi.uint256Of_toWord x)

end

namespace Reader.Answers

variable {reader : Reader} {chain : Chain} {controller : Address} {calls : List ControllerCall}

/-- What is answered for a batch is answered for one with fewer calls. -/
theorem of_subset (h : reader.Answers chain controller calls) {fewer : List ControllerCall} (hfewer : fewer ⊆ calls) :
    reader.Answers chain controller fewer :=
  { h with receivers := fun token salts asked hcall => h.receivers token salts asked (hfewer hcall) }

/-- The route of a rebalancer is read from its answer. -/
theorem bytesOf_payload (h : reader.Answers chain controller calls) (rebalancer : Address) :
    Abi.bytesOf (chain.encodedPayload rebalancer) 0 = .ok (chain.payload rebalancer) := by
  have hfits := h.fits _ _ _ (h.payload rebalancer)
  have hpadded := Abi.le_paddedLength (chain.payload rebalancer).length
  rw [Chain.encodedPayload, List.length_append, Abi.length_ofBytes] at hfits
  have hlength : (chain.payload rebalancer).length < Bytes.maxLength := by omega
  exact Abi.bytesOf_ofBytes (Nat.lt_trans hlength (by decide))

/-- The receivers of salts are read from the answer to the batch that asks for them. -/
theorem bytesArrayOf_receivers (h : reader.Answers chain controller calls) {token : Address} {salts asked : List Word}
    (hcall : .pullFromReceivers token salts ∈ calls) (hasked : asked ⊆ salts) (hnodup : asked.Nodup) :
    Abi.bytesArrayOf (chain.encodedReceivers asked) 0 =
      .ok (asked.map fun salt => (Abi.ofAddress (chain.receiver salt)).bytes) := by
  have hself := Abi.StandsAt.self (chain.encodedReceivers asked)
  have harray := hself.right
  rw [(Abi.ofLength 32).length_eq] at harray
  exact Abi.bytesArrayOf_of_standsAt
    (h.fits _ _ _ (h.receivers token salts asked hcall hasked hnodup)) hself.left harray

end Reader.Answers

end CheckpointRelay.Plan
