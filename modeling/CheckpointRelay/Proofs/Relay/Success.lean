import CheckpointRelay.Proofs.Relay.Commit
import CheckpointRelay.Proofs.Relay.Round

/-!
# Operations that succeed

An operation that plans through the node is played against one that goes through rounds. What it plans is what its batch
emits on the chain that it reads, and the node reads the batch back from the transaction that is broadcast. So a
transaction that is executed where it was read holds to its assertion and commits, one that finds the tip moved reverts
with the text that is tried again after, and two such losses are no obstacle (`Relayer.send_succeeds`).
-/

namespace CheckpointRelay

open Dialogue

/-! ## What is broadcast in a round -/

namespace Round

/-- The tip that the batch asserts: the one that its events, on the chain that is read, make of the tip that is read. -/
def asserted (round : Round) (calls : List ControllerCall) : Tip :=
  EventChain.fold round.block round.tip ((round.chain.emitted? calls).getD [])

/-- The batch with the assertion at its end. -/
def batch (round : Round) (calls : List ControllerCall) : List ControllerCall :=
  calls ++ [.isEventChainTip (round.asserted calls)]

/-- The raw data of the transaction that is broadcast. -/
def signed (round : Round) (r : Relayer) (calls : List ControllerCall) : RawTransaction :=
  { round.draft with
    contracts := (r.batchCall (round.batch calls)).toContract :: round.draft.contracts
    feeLimit := r.settings.feeLimit }

/-- The transaction that is broadcast. -/
def sent (round : Round) (r : Relayer) (calls : List ControllerCall) : Transaction :=
  { raw := some (round.signed r calls)
    signatures := ((r.signer.sign? (round.signed r calls).digest).map Octets.bytes).toList
    results := round.results }

/-- The node serves an attempt to send a batch: what is read is the tip and the chain of the round, on which the batch
does not revert, the signer signs, the batch is no longer than a byte string can be, and a lookup that is made finds the
outcome. -/
structure Serves (round : Round) (r : Relayer) (calls : List ControllerCall) : Prop where
  tip : round.constant (r.controllerCall (readCall Signature.eventChainTip)) = .ok round.tip.bytes
  reads : (round.reader r.controller).Answers round.chain r.controller calls
  runs : (round.chain.emitted? calls).isSome = true
  signs : (r.signer.sign? (round.signed r calls).digest).isSome = true
  fits : (Multicall.encode ((round.batch calls).map ControllerCall.encode)).length < Bytes.maxLength
  silent : round.silent < r.settings.lookups.toNat

/-- The transaction is executed at a tip from which the events of its batch do not come to the one that is asserted. -/
def Lost (round : Round) (calls : List ControllerCall) : Prop :=
  ∃ events, round.chainAt.emitted? calls = some events ∧
    EventChain.fold round.block round.tipAt events ≠ round.asserted calls

/-- The transaction is executed at the tip and on the chain that were read. -/
structure Won (round : Round) : Prop where
  tip : round.tipAt = round.tip
  chain : round.chainAt = round.chain

end Round

namespace SuccessAux

variable {r : Relayer} {calls : List ControllerCall} {round : Round}

/-- The tip folded over the events that the chain emits is the one the round's transaction asserts. -/
theorem fold_eq_asserted {events : List Event} (hevents : round.chain.emitted? calls = some events) :
    EventChain.fold round.block round.tip events = round.asserted calls := by
  rw [Round.asserted, hevents, Option.getD_some]

/-- Calls that a round serves make a batch of a possible length. -/
theorem fits_calls (h : round.Serves r calls) :
    (Multicall.encode (calls.map ControllerCall.encode)).length < Bytes.maxLength := by
  have hfits := h.fits
  rw [Round.batch, List.map_append] at hfits
  exact Nat.lt_of_le_of_lt (Multicall.length_encode_le_append _ _) hfits

/-- What the node builds in a round is made ready as the transaction that is broadcast. -/
theorem ready_sent (h : round.Serves r calls) (hfee : 0 ≤ r.settings.feeLimit) {events : List Event}
    (hevents : round.chain.emitted? calls = some events) :
    r.ready calls round.tip events (round.built (r.batchCall calls)) =
      .ok (round.sent r calls, (round.signed r calls).txid) := by
  obtain ⟨signature, hsign⟩ := Option.isSome_iff_exists.mp h.signs
  have hsigned : r.asserting calls round.draft (EventChain.fold round.block round.tip events) =
      round.signed r calls := by
    rw [fold_eq_asserted hevents]
    rfl
  have hready : r.ready calls round.tip events (round.built (r.batchCall calls)) = _ :=
    Relayer.ready_of_draft round.blockRef_draft hfee (fits_calls h) (hsigned ▸ hsign)
  rw [hsigned] at hready
  rw [Round.sent, hsign]
  exact hready

/-! ### The execution -/

/-- The transaction of a round calls the controller with the batch of the round. -/
theorem call_sent (h : round.Serves r calls) : (round.sent r calls).call = .ok (r.batchCall (round.batch calls)) :=
  (Relayer.call_of_toContract rfl rfl (Relayer.decode_batchCall h.fits)).2

/-- The transaction of a round refers to the round's block. -/
theorem block?_sent : (round.sent r calls).block? = some round.block :=
  Transaction.block?_eq rfl round.blockRef_draft

/-- The transaction of a round asserts the tip folded over the round's events. -/
theorem assertedTip?_sent (h : round.Serves r calls) :
    (round.sent r calls).assertedTip? = some (round.asserted calls) := by
  have hbatch := Multicall.decode_encode_self h.fits
  conv at hbatch => rhs; rw [Round.batch, List.map_append, List.map_singleton]
  rw [Transaction.assertedTip?_eq (call_sent h) hbatch, assertedTip?_encode]

/-- The transaction emits on a chain what its calls emit there. -/
theorem emitted?_sent (h : round.Serves r calls) (chain : Plan.Chain) :
    (round.sent r calls).emitted? chain = chain.emitted? calls := by
  have hcalls := Transaction.calls?_eq (call_sent h) rfl h.fits
  rw [Transaction.emitted?, hcalls, Option.bind_eq_bind, Option.bind_some, Plan.Chain.emitted?, Round.batch,
    Plan.Chain.executeAll_concat_isEventChainTip]
  rfl

/-- The transaction holds to its assertion exactly when its events come to the tip that is asserted. -/
theorem outcome_sent (h : round.Serves r calls) {events : List Event}
    (hevents : round.chainAt.emitted? calls = some events) (name : String) :
    round.outcome (round.sent r calls) name =
      if round.asserted calls = EventChain.fold round.block round.tipAt events then
        { id := name, blockNumber := round.minedIn }
      else .reverted name round.minedIn (Revert.errorData "no") := by
  rw [Round.outcome, emitted?_sent h, hevents, block?_sent, assertedTip?_sent h]
  exact if_congr Option.some_inj rfl rfl

/-- In a lost round the transaction reverts with the text of the tip assertion. -/
theorem outcome_of_lost (h : round.Serves r calls) (hlost : round.Lost calls) (name : String) :
    round.outcome (round.sent r calls) name = .reverted name round.minedIn (Revert.errorData "no") := by
  obtain ⟨events, hevents, hne⟩ := hlost
  rw [outcome_sent h hevents, if_neg hne.symm]

/-- A lost round ends its attempt so that another one follows. -/
theorem tipMismatch_of_lost (h : round.Serves r calls) (hlost : round.Lost calls) (name : String) :
    Relayer.TipMismatch (Relayer.settled name (round.outcome (round.sent r calls) name)) := by
  rw [outcome_of_lost h hlost, Relayer.settled, Outcome.isFailed_reverted, if_pos rfl]
  exact (Relayer.isTipMismatch_describe _ _).mpr (Or.inr (Outcome.revertedWithNo_reverted _ _))

/-- In a won round the transaction is carried out. -/
theorem outcome_of_won (h : round.Serves r calls) (hwon : round.Won) (name : String) :
    round.outcome (round.sent r calls) name = { id := name, blockNumber := round.minedIn } := by
  obtain ⟨events, hevents⟩ := Option.isSome_iff_exists.mp h.runs
  rw [outcome_sent h (hwon.chain ▸ hevents), hwon.tip, fold_eq_asserted hevents, if_pos rfl]

/-- A round that is won leaves the tip that is asserted. -/
theorem after_of_won (h : round.Serves r calls) (hwon : round.Won) (name : String) :
    (round.execution (round.sent r calls) name).after = round.asserted calls := by
  have houtcome : (round.execution (round.sent r calls) name).outcome.isFailed = false :=
    congrArg Outcome.isFailed (outcome_of_won h hwon name)
  have hasserted : (round.execution (round.sent r calls) name).transaction.assertedTip? = some (round.asserted calls) :=
    assertedTip?_sent h
  rw [Execution.after, houtcome, hasserted]
  rfl

/-! ### The answers of the node -/

/-- How a question of an operation is put to the node. -/
def putToNode : (q : Relayer.Query) → Dialogue Node.Query Node.Query.Answer q.Answer
  | .node q => question q
  | .plan controller calls => Relayer.planThroughNode controller calls

/-- Going through the node interprets each question by what the node is asked. -/
theorem throughNode_eq {α : Type} (d : Relayer.RelayM α) : Relayer.throughNode d = d.run.interpret putToNode := rfl

variable {rounds : Nat → Round} {i : Nat}

/-- Planning asks for what the round shows, and comes to what the calls emit. -/
theorem comesTo_plan (L : Ledger) (n : Nat) (h : (rounds i).Serves r calls) {events : List Event}
    (hevents : (rounds i).chain.emitted? calls = some events) :
    ComesTo (Node.answer rounds) ⟨i, L, n⟩ (Relayer.planThroughNode r.controller calls) (.ok events) ⟨i, L, n⟩ := by
  have hread : ∀ q, ComesTo (Node.answer rounds) ⟨i, L, n⟩ (Relayer.readThroughNode r.controller q)
      ((rounds i).reader r.controller q) ⟨i, L, n⟩ := by
    intro q
    cases q with
    | contract a calldata => exact comesTo_question rfl
    | deployed a => exact comesTo_question rfl
  have hanswered : (Plan.events r.controller calls).run.answered ((rounds i).reader r.controller) = .ok events := by
    have hplan := Plan.toOption_batchEvents h.reads Plan.agree_empty (List.Subset.refl calls)
    rw [Plan.over_empty, ← Plan.answered_events h.reads] at hplan
    have hsome := hplan.trans hevents
    generalize (Plan.events r.controller calls).run.answered ((rounds i).reader r.controller) = answered at hsome ⊢
    cases answered with
    | error cause => nomatch hsome
    | ok made => exact congrArg Except.ok (Option.some.inj hsome)
  have hinterpret := comesTo_answered hread (Plan.events r.controller calls).run
  rw [hanswered] at hinterpret
  exact hinterpret.bind (comesTo_done _)

/-- As many lookups find nothing as the node is still silent. -/
theorem served_silent (L : Ledger) {xs : List Relayer.Exchange}
    (h : ∀ x ∈ xs, ∃ txid pause, x = ⟨.node (.outcome txid pause), .ok none⟩) :
    Served putToNode (Node.answer rounds) ⟨i, L, xs.length⟩ xs ⟨i, L, 0⟩ := by
  induction xs with
  | nil => exact .nil _
  | cons x xs ih =>
    obtain ⟨⟨txid, pause, rfl⟩, hxs⟩ := List.forall_mem_cons.mp h
    exact .cons (comesTo_question rfl) (ih hxs)

/-- A round that serves an attempt is one: the transaction is broadcast, and a lookup finds what has become of it. -/
theorem attempt_of_serves (L : Ledger) (n : Nat) (h : (rounds i).Serves r calls) (hfee : 0 ≤ r.settings.feeLimit) :
    ∃ a : Relayer.AttemptRecord, Relayer.Attempt r calls a.exchanges a.ending ∧
      a.ending = Relayer.settled ((rounds i).signed r calls).txid
        ((rounds i).outcome ((rounds i).sent r calls) ((rounds i).signed r calls).txid) ∧
      Served putToNode (Node.answer rounds) ⟨i, L, n⟩ a.exchanges
        ⟨i + 1, L.settle (rounds i) ((rounds i).sent r calls), 0⟩ := by
  obtain ⟨events, hevents⟩ := Option.isSome_iff_exists.mp h.runs
  have htip : Abi.wordOf (rounds i).tip.bytes 0 = .ok (rounds i).tip :=
    Abi.wordOf_of_standsAt (by rw [(rounds i).tip.length_eq]; decide) (.self _)
  let p : r.Prepared calls := ⟨_, _, events, _, _, _, htip, ready_sent h hfee hevents⟩
  let found := (rounds i).outcome p.sent p.txid
  refine ⟨⟨_, _⟩, .found p ⟨true, ""⟩ (rounds i).silent found rfl h.silent, rfl, ?_⟩
  -- the four questions up to the broadcast, the lookups that find nothing, and the one that finds the outcome
  have hopening : Served putToNode (Node.answer rounds) ⟨i, L, n⟩ (p.exchanges (.ok ⟨true, ""⟩))
      ⟨i + 1, L.settle (rounds i) p.sent, (rounds i).silent⟩ :=
    .cons (comesTo_question (Prod.ext h.tip rfl)) (.cons (comesTo_plan L n h hevents) (.cons (comesTo_question rfl)
      (.single (comesTo_question rfl))))
  have hlength : (r.emptyLookups p.txid (rounds i).silent).length = (rounds i).silent := by
    rw [Relayer.emptyLookups, Node.emptyLookups, List.length_map, List.length_map, List.length_range]
  have hsilent : Served putToNode (Node.answer rounds)
      ⟨i + 1, L.settle (rounds i) p.sent, (r.emptyLookups p.txid (rounds i).silent).length⟩
      (r.emptyLookups p.txid (rounds i).silent) ⟨i + 1, L.settle (rounds i) p.sent, 0⟩ := by
    refine served_silent _ fun x hx => ?_
    obtain ⟨lookup, hlookup, rfl⟩ := List.mem_map.mp hx
    obtain ⟨k, -, rfl⟩ := List.mem_map.mp hlookup
    exact ⟨_, _, rfl⟩
  rw [hlength] at hsilent
  have hrecord : (L.settle (rounds i) p.sent).record p.txid = some ((rounds i).execution p.sent p.txid) :=
    L.record_settle (rounds i) rfl
  have hfound : Served putToNode (Node.answer rounds) ⟨i + 1, L.settle (rounds i) p.sent, 0⟩
      [r.lookupExchange p.txid (rounds i).silent (.ok (some found))] ⟨i + 1, L.settle (rounds i) p.sent, 0⟩ := by
    refine .single (comesTo_question ?_)
    show (Except.ok (((L.settle (rounds i) p.sent).record p.txid).map Execution.outcome), _) = _
    rw [hrecord]
    rfl
  exact hopening.append (hsilent.append hfound)

end SuccessAux

open SuccessAux

/-- The ledger when each of the first rounds has executed its transaction. -/
def Ledger.afterRounds (L : Ledger) (rounds : Nat → Round) (r : Relayer) (calls : List ControllerCall) : Nat → Ledger
  | 0 => L
  | i + 1 => (L.afterRounds rounds r calls i).settle (rounds i) ((rounds i).sent r calls)

/-- After some rounds their transactions have been accepted, the last one first. -/
theorem Ledger.accepted_afterRounds (L : Ledger) (rounds : Nat → Round) (r : Relayer) (calls : List ControllerCall)
    (i : Nat) :
    (L.afterRounds rounds r calls i).accepted =
      ((List.range i).map fun i => (rounds i).sent r calls).reverse ++ L.accepted := by
  induction i with
  | zero => rfl
  | succ i ih =>
    rw [afterRounds, accepted_settle, ih, List.range_succ, List.map_append, List.reverse_append]
    rfl

/-- What a round has executed stays on record until a later transaction has its name. -/
theorem Ledger.record_afterRounds (L : Ledger) (rounds : Nat → Round) (r : Relayer) (calls : List ControllerCall)
    {i m : Nat} (h : i < m)
    (hname : ∀ k < m, i < k → ((rounds k).signed r calls).txid ≠ ((rounds i).signed r calls).txid) :
    (L.afterRounds rounds r calls m).record ((rounds i).signed r calls).txid =
      some ((rounds i).execution ((rounds i).sent r calls) ((rounds i).signed r calls).txid) := by
  induction m with
  | zero => exact absurd h (Nat.not_lt_zero i)
  | succ m ih =>
    rcases Nat.lt_or_eq_of_le (Nat.le_of_lt_succ h) with hi | rfl
    · have hne : ((rounds m).sent r calls).txid? ≠ some ((rounds i).signed r calls).txid :=
        fun he => hname m (Nat.lt_succ_self m) hi (Option.some.inj he)
      rw [afterRounds, record_settle_of_ne _ _ hne]
      exact ih hi fun k hk => hname k (Nat.lt_succ_of_lt hk)
    · exact record_settle _ _ rfl

/-- What an operation has come to whose first `j` attempts were lost and whose next one was not, if `s` is the node
after it. -/
structure Delivered (rounds : Nat → Round) (r : Relayer) (calls : List ControllerCall) (before : Ledger) (j : Nat)
    (s : Node.State) :
    Prop where
  /-- The tip is the one that the events of the batch make of the tip that the last attempt read. -/
  tip : ∃ events, (rounds j).chain.emitted? calls = some events ∧
    s.ledger.tip = EventChain.fold (rounds j).block (rounds j).tip events
  committed : s.ledger.committed ((rounds j).signed r calls).txid = true
  /-- Every attempt has broadcast one transaction, and nothing else has been. -/
  accepted : s.ledger.accepted = ((List.range (j + 1)).map fun i => (rounds i).sent r calls).reverse ++ before.accepted
  /-- The earlier ones are not committed, if their names have not been used again. -/
  reverted : ∀ i < j, (∀ k ≤ j, i < k → ((rounds k).signed r calls).txid ≠ ((rounds i).signed r calls).txid) →
    s.ledger.committed ((rounds i).signed r calls).txid = false

section

variable {r : Relayer} {calls : List ControllerCall} {rounds : Nat → Round} {j : Nat}

/-- After lost rounds and a won one, the batch is delivered by the won round's transaction. -/
theorem delivered_afterRounds (L : Ledger) (n : Nat) (hserves : ∀ i ≤ j, (rounds i).Serves r calls)
    (hlost : ∀ i < j, (rounds i).Lost calls) (hwon : (rounds j).Won) :
    Delivered rounds r calls L j ⟨j + 1, L.afterRounds rounds r calls (j + 1), n⟩ where
  tip := by
    obtain ⟨events, hevents⟩ := Option.isSome_iff_exists.mp (hserves j (Nat.le_refl j)).runs
    refine ⟨events, hevents, ?_⟩
    rw [fold_eq_asserted hevents, ← after_of_won (hserves j (Nat.le_refl j)) hwon]
    exact Ledger.tip_settle _ _ rfl
  committed := by
    have hrecord := Ledger.record_afterRounds L rounds r calls (Nat.lt_succ_self j) fun k hk hjk =>
      absurd hjk (Nat.not_lt_of_le (Nat.le_of_lt_succ hk))
    rw [Ledger.committed, hrecord, Option.any_some]
    exact congrArg (fun o => !Outcome.isFailed o) (outcome_of_won (hserves j (Nat.le_refl j)) hwon _)
  accepted := L.accepted_afterRounds rounds r calls (j + 1)
  reverted := by
    intro i hi hname
    have hrecord := Ledger.record_afterRounds L rounds r calls (Nat.lt_succ_of_lt hi) fun k hk =>
        hname k (Nat.le_of_lt_succ hk)
    rw [Ledger.committed, hrecord, Option.any_some]
    exact congrArg (fun o => !Outcome.isFailed o) (outcome_of_lost (hserves i (Nat.le_of_lt hi)) (hlost i hi) _)

/-- From each round on, `k` of them are lost and the one after them commits, if there are attempts enough. The induction
is on `k`. -/
theorem retries_of_rounds (L : Ledger) (hfee : 0 ≤ r.settings.feeLimit) (hserves : ∀ i ≤ j, (rounds i).Serves r calls)
    (hlost : ∀ i < j, (rounds i).Lost calls) (hwon : (rounds j).Won) (k : Nat) : ∀ i n left, i + k = j → k < left →
      ∃ as, Relayer.Retries r calls left as (.ok ((rounds j).signed r calls).txid) ∧
        Served putToNode (Node.answer rounds) ⟨i, L.afterRounds rounds r calls i, n⟩
          (as.flatMap Relayer.AttemptRecord.exchanges) ⟨j + 1, L.afterRounds rounds r calls (j + 1), 0⟩ := by
  -- on the rounds that are still to be lost before round `j`
  induction k with
  | zero =>
    intro i n left hi hleft
    obtain rfl : i = j := hi
    obtain ⟨left, rfl⟩ := Nat.exists_eq_add_one_of_ne_zero (Nat.ne_of_gt hleft)
    have hserve := hserves i (Nat.le_refl i)
    obtain ⟨a, hattempt, hending, hserved⟩ := attempt_of_serves (L.afterRounds rounds r calls i) n hserve hfee
    rw [outcome_of_won hserve hwon] at hending
    have hok : a.ending = .ok ((rounds i).signed r calls).txid := hending
    refine ⟨[a], hok ▸ .settled a hattempt (by rw [hok]; exact id), ?_⟩
    rw [List.flatMap_singleton]
    exact hserved
  | succ k ih =>
    intro i n left hi hleft
    obtain ⟨left, rfl⟩ := Nat.exists_eq_add_one_of_ne_zero (Nat.ne_of_gt (Nat.zero_lt_of_lt hleft))
    have hij : i < j := by omega
    have hserve := hserves i (Nat.le_of_lt hij)
    obtain ⟨a, hattempt, hending, hserved⟩ := attempt_of_serves (L.afterRounds rounds r calls i) n hserve hfee
    have hmismatch : Relayer.TipMismatch a.ending := hending ▸ tipMismatch_of_lost hserve (hlost i hij) _
    obtain ⟨later, hretries, hlater⟩ := ih (i + 1) 0 left (by omega) (by omega)
    refine ⟨a :: later, .lost a hattempt hmismatch hretries, ?_⟩
    rw [List.flatMap_cons]
    exact hserved.append hlater

/-- A batch is sent even if the first attempts, two at most, are lost against other writers. When the transaction of the
next one is executed at the tip and on the chain that this attempt read, the operation comes to the name of that
transaction. -/
theorem Relayer.send_succeeds (L : Ledger) (hcalls : calls ≠ []) (hvalue : r.settings.callValue = 0)
    (hfee : 0 ≤ r.settings.feeLimit) (hj : j < 3) (hserves : ∀ i ≤ j, (rounds i).Serves r calls)
    (hlost : ∀ i < j, (rounds i).Lost calls) (hwon : (rounds j).Won) :
    ∃ s, ComesTo (Node.answer rounds) ⟨0, L, 0⟩ (throughNode (r.sendBatch calls))
      (.ok ((rounds j).signed r calls).txid) s ∧
      Delivered rounds r calls L j s := by
  obtain ⟨as, hretries, hserved⟩ := retries_of_rounds L hfee hserves hlost hwon j 0 0 3 (Nat.zero_add j) hj
  have hsend : r.sendBatch calls = r.sendCheckpointed calls := by
    simp only [sendBatch, hcalls, if_false]
  have htranscript := (transcript_sendCheckpointed_iff hvalue).mpr ⟨as, hretries, rfl⟩
  rw [← hsend] at htranscript
  have hcomes := hserved.comesTo htranscript
  rw [← throughNode_eq] at hcomes
  exact ⟨_, hcomes, delivered_afterRounds L 0 hserves hlost hwon⟩

end

/-! ## A round that is lost, and one that is won -/

open Relayer (sampleSender sampleBatch sampleEvents sampleAfter sampleSigned fold_sampleEvents asserting_sampleBatch
  length_sampleBatch signs_first movedTip)

/-- A round in which the sample chain is read and a transaction is built against the block of a number. -/
def sampleRound (number : Int64) (h : 0 ≤ number) (tipAt : Tip) : Round where
  tip := Plan.sampleNumber.toWord
  chain := Plan.sampleChain
  constant call := .ok (Plan.sampleAnswer call.data)
  deployed _ := .ok false
  draft := Relayer.sampleDraft number
  number_nonneg := h
  timestamp_nonneg := show (0 : Int64) ≤ 9 by decide
  signatures := []
  results := []
  tipAt := tipAt
  chainAt := Plan.sampleChain
  minedIn := 10
  silent := 2

/-- The first round is executed at another tip than the one that is read. -/
def sampleRounds : Nat → Round
  | 0 => sampleRound 7 (by decide) movedTip
  | _ => sampleRound 8 (by decide) Plan.sampleNumber.toWord

/-- The sample chain emits the sample events for the sample batch. -/
theorem emitted?_sampleBatch : Plan.sampleChain.emitted? sampleBatch = some sampleEvents := rfl

/-- The sample round's transaction asserts the sample tip. -/
theorem asserted_sampleRound (number : Int64) (h : 0 ≤ number) (tipAt : Tip) :
    (sampleRound number h tipAt).asserted sampleBatch = sampleAfter number.toUInt64 Plan.sampleNumber.toWord := by
  have hevents : (sampleRound number h tipAt).chain.emitted? sampleBatch = _ := emitted?_sampleBatch
  rw [Round.asserted, hevents]
  exact fold_sampleEvents _ _

/-- The sample round's transaction is the sample one. -/
theorem signed_sampleRound (number : Int64) (h : 0 ≤ number) (tipAt : Tip) :
    (sampleRound number h tipAt).signed sampleSender sampleBatch =
      sampleSigned number (sampleAfter number.toUInt64 Plan.sampleNumber.toWord) := by
  have hsigned := asserting_sampleBatch number ((sampleRound number h tipAt).asserted sampleBatch)
  rw [asserted_sampleRound] at hsigned
  rw [← hsigned, ← asserted_sampleRound number h tipAt]
  rfl

/-- The sample key signs the second round's transaction. -/
theorem signs_second :
    (sampleSender.signer.sign? (sampleSigned 8 (sampleAfter 8 Plan.sampleNumber.toWord)).digest).isSome = true := by
  decide +kernel

/-- The tip that another writer has moved leads to another tip. -/
theorem sampleAfter_ne : sampleAfter 7 movedTip ≠ sampleAfter 7 Plan.sampleNumber.toWord := by
  decide +kernel

/-- A sample round whose transaction can be signed serves the sample sender. -/
theorem sampleRound_serves {number : Int64} (h : 0 ≤ number) (tipAt : Tip)
    (hsign : (sampleSender.signer.sign?
      (sampleSigned number (sampleAfter number.toUInt64 Plan.sampleNumber.toWord)).digest).isSome) :
    (sampleRound number h tipAt).Serves sampleSender sampleBatch where
  tip := congrArg Except.ok (Plan.sampleAnswer_readCall _)
  reads := by
    have hreader : (sampleRound number h tipAt).reader sampleSender.controller = Plan.sampleReader := by
      funext q
      cases q <;> rfl
    rw [hreader]
    exact Plan.sampleReader_answers.of_subset (List.subset_cons_self _ _)
  runs := congrArg Option.isSome emitted?_sampleBatch
  signs := by
    rw [signed_sampleRound]
    exact hsign
  fits := by
    rw [Round.batch, length_sampleBatch]
    decide
  silent := show 2 < 3 by decide

/-- All sample rounds serve the sample sender. -/
theorem sampleRounds_serve (i : Nat) : (sampleRounds i).Serves sampleSender sampleBatch := by
  cases i with
  | zero => exact sampleRound_serves (by decide) _ signs_first
  | succ i => exact sampleRound_serves (by decide) _ signs_second

/-- The first sample round is lost. -/
theorem sampleRounds_lost : (sampleRounds 0).Lost sampleBatch := by
  refine ⟨_, emitted?_sampleBatch, ?_⟩
  show EventChain.fold ⟨7, 9⟩ (Octets.ofNat 32 0) _ ≠ (sampleRound 7 (by decide) movedTip).asserted sampleBatch
  rw [fold_sampleEvents, asserted_sampleRound]
  exact sampleAfter_ne

/-- The first transaction finds that the tip has moved and reverts, and the second one commits. -/
theorem Relayer.send_succeeds_sample :
    sampleBatch ≠ [] ∧ sampleSender.settings.callValue = 0 ∧ 0 ≤ sampleSender.settings.feeLimit ∧ 1 < 3 ∧
      (∀ i ≤ 1, (sampleRounds i).Serves sampleSender sampleBatch) ∧ (∀ i < 1, (sampleRounds i).Lost sampleBatch) ∧
      (sampleRounds 1).Won ∧
      ∃ s, ComesTo (Node.answer sampleRounds) ⟨0, emptyLedger, 0⟩ (throughNode (sampleSender.sendBatch sampleBatch))
          (.ok ((sampleRounds 1).signed sampleSender sampleBatch).txid) s ∧
        s.ledger.tip = sampleAfter 8 Plan.sampleNumber.toWord := by
  have hcalls : sampleBatch ≠ [] := List.cons_ne_nil _ _
  have hfee : 0 ≤ sampleSender.settings.feeLimit := show (0 : Int64) ≤ 150000000 by decide
  have hserves : ∀ i ≤ 1, (sampleRounds i).Serves sampleSender sampleBatch := fun i _ => sampleRounds_serve i
  have hlost : ∀ i < 1, (sampleRounds i).Lost sampleBatch := by
    intro i hi
    rw [Nat.lt_one_iff.mp hi]
    exact sampleRounds_lost
  have hwon : (sampleRounds 1).Won := ⟨rfl, rfl⟩
  obtain ⟨s, hcomes, ⟨events, hevents, htip⟩, -⟩ :=
    send_succeeds emptyLedger hcalls rfl hfee (by decide) hserves hlost hwon
  cases hevents.symm.trans emitted?_sampleBatch
  exact ⟨hcalls, rfl, hfee, by decide, hserves, hlost, hwon, s, hcomes, htip.trans (fold_sampleEvents _ _)⟩

end CheckpointRelay
