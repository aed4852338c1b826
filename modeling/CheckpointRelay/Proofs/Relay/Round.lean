import CheckpointRelay.Proofs.Dialogue.Interpreted
import CheckpointRelay.Proofs.Plan.Refinement
import CheckpointRelay.Proofs.Relay.Ledger
import CheckpointRelay.Proofs.Relay.Marker

/-!
# A node that executes what it accepts

A node answers an operation in rounds. In each it serves the reads from one tip and one chain, builds a transaction
around the call that is asked for, accepts what is broadcast and executes it at once, at a tip and on a chain that other
writers may have moved meanwhile. Lookups find nothing for some time, and then what is on record. A transaction executes
as the controller does: its calls emit their events, and it reverts with the text `no` unless these take the tip to the
one that its last call asserts.
-/

namespace CheckpointRelay

/-! ## Transactions as the controller runs them -/

namespace Transaction

/-- The calls in a transaction's batch. -/
def calls? (t : Transaction) : Option (List ControllerCall) := do
  let batch ← (Multicall.decode (← t.call.toOption).data).toOption
  batch.mapM ControllerCall.decode?

/-- The events that a transaction emits on a chain, unless its calls revert there. -/
def emitted? (t : Transaction) (chain : Plan.Chain) : Option (List Event) := do
  chain.emitted? (← t.calls?)

/-- The calls of a transaction are those of the batch that its call data encodes. -/
theorem calls?_eq {t : Transaction} {call : TriggerCall} {calls : List ControllerCall} (hcall : t.call = .ok call)
    (hdata : call.data = Multicall.encode (calls.map ControllerCall.encode))
    (hlength : (Multicall.encode (calls.map ControllerCall.encode)).length < Bytes.maxLength) :
    t.calls? = some calls := by
  have hbatch : Multicall.decode call.data = .ok (calls.map ControllerCall.encode) := by
    rw [hdata]
    exact Multicall.decode_encode_self hlength
  simp only [calls?, hcall, Except.toOption, Option.bind_eq_bind, Option.bind_some, hbatch,
    ControllerCall.mapM_decode?_of_batch hlength]

end Transaction

/-! ## Rounds -/

/-- What a node does in one attempt of an operation. -/
structure Round where
  /-- The tip that is read. -/
  tip : Tip
  /-- The chain that is read. -/
  chain : Plan.Chain
  /-- What calls return without changing anything. -/
  constant : TriggerCall → Except Report Bytes
  deployed : Address → Except Report Bool
  /-- The raw data of the transaction that is built, but for its first contract. -/
  draft : RawTransaction
  number_nonneg : 0 ≤ draft.refBlockNumber
  timestamp_nonneg : 0 ≤ draft.timestamp
  signatures : List Bytes
  results : List TransactionResult
  /-- The tip at which the transaction is executed. -/
  tipAt : Tip
  /-- The chain on which it is executed. -/
  chainAt : Plan.Chain
  /-- The number of the block in which it is executed. -/
  minedIn : UInt64
  /-- How many lookups find nothing before one finds the outcome. -/
  silent : Nat

namespace Round

/-- The answers to what planning asks. -/
def reader (round : Round) (controller : Address) : Plan.Reader
  | .contract a calldata => round.constant { owner := controller.bytes, contract := a.bytes, data := calldata }
  | .deployed a => round.deployed a

/-- The block that the transaction runs against. -/
def block (round : Round) : BlockRef :=
  ⟨round.draft.refBlockNumber.toUInt64, round.draft.timestamp.toUInt64⟩

/-- The node's draft refers to the round's block. -/
theorem blockRef_draft (round : Round) : round.draft.blockRef = .ok round.block := by
  rw [RawTransaction.blockRef, if_neg (Int64.not_lt.mpr round.number_nonneg),
    if_neg (Int64.not_lt.mpr round.timestamp_nonneg)]
  rfl

/-- The transaction that is built for a call. -/
def built (round : Round) (call : TriggerCall) : Transaction :=
  { raw := some { round.draft with contracts := call.toContract :: round.draft.contracts }
    signatures := round.signatures
    results := round.results }

/-- What becomes of a transaction, under its name. -/
def outcome (round : Round) (t : Transaction) (name : String) : Outcome :=
  match t.emitted? round.chainAt, t.block? with
  | some events, some block =>
    if t.assertedTip? = some (EventChain.fold block round.tipAt events) then
      { id := name, blockNumber := round.minedIn }
    else .reverted name round.minedIn (Revert.errorData "no")
  | _, _ => .reverted name round.minedIn []

/-- The execution of a transaction, under its name. -/
def execution (round : Round) (t : Transaction) (name : String) : Execution where
  transaction := t
  before := round.tipAt
  emitted := (t.emitted? round.chainAt).getD []
  outcome := round.outcome t name
  checked := by
    intro h
    unfold outcome at h
    split at h
    · rename_i events block hevents hblock
      split at h
      · rename_i htip
        rw [hevents]
        exact ⟨block, hblock, htip⟩
      · nomatch h
    · nomatch h

end Round

/-- The ledger once other writers have moved the tip to that of a round, and a transaction has been accepted and
executed. -/
def Ledger.settle (L : Ledger) (round : Round) (t : Transaction) : Ledger :=
  match h : t.txid? with
  | none => L.accept t
  | some name => ({ L with tip := round.tipAt }.accept t).execute name (round.execution t name) List.mem_cons_self h

/-- Settling a transaction adds it to those accepted. -/
theorem Ledger.accepted_settle (L : Ledger) (round : Round) (t : Transaction) :
    (L.settle round t).accepted = t :: L.accepted := by
  unfold settle
  split <;> rfl

/-- Settling a transaction leaves the tip that its execution leaves. -/
theorem Ledger.tip_settle (L : Ledger) (round : Round) {t : Transaction} {name : String} (h : t.txid? = some name) :
    (L.settle round t).tip = (round.execution t name).after := by
  unfold settle
  split
  · rename_i hnone
    nomatch hnone.symm.trans h
  · rename_i other hother
    cases hother.symm.trans h
    rfl

/-- Settling a transaction records its execution under its name. -/
theorem Ledger.record_settle (L : Ledger) (round : Round) {t : Transaction} {name : String} (h : t.txid? = some name) :
    (L.settle round t).record name = some (round.execution t name) := by
  unfold settle
  split
  · rename_i hnone
    nomatch hnone.symm.trans h
  · rename_i other hother
    cases hother.symm.trans h
    exact Function.update_self _ _ _

/-- Settling a transaction records nothing under another name. -/
theorem Ledger.record_settle_of_ne (L : Ledger) (round : Round) {t : Transaction} {name : String}
    (h : t.txid? ≠ some name) :
    (L.settle round t).record name = L.record name := by
  unfold settle
  split
  · rfl
  · rename_i other hother
    refine Function.update_of_ne ?_ _ _
    rintro rfl
    exact h hother

/-! ## The node -/

namespace Node

/-- The state of a node in the course of an operation. -/
structure State where
  /-- The number of the round. -/
  round : Nat
  ledger : Ledger
  /-- How many lookups will find nothing. -/
  silent : Nat

/-- How a node answers that goes through rounds. A broadcast ends a round. -/
def answer (rounds : Nat → Round) (s : State) : (q : Query) → q.Answer × State
  | .constant call => ((rounds s.round).constant call, s)
  | .deployed a => ((rounds s.round).deployed a, s)
  | .build call _ => (.ok ((rounds s.round).built call), s)
  | .broadcast t => (.ok ⟨true, ""⟩, ⟨s.round + 1, s.ledger.settle (rounds s.round) t, (rounds s.round).silent⟩)
  | .outcome txid _ =>
    match s.silent with
    | 0 => (.ok ((s.ledger.record txid).map Execution.outcome), s)
    | silent + 1 => (.ok none, { s with silent := silent })

end Node

end CheckpointRelay
