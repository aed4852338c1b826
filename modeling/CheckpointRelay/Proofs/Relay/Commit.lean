import CheckpointRelay.Proofs.Relay.Ledger
import CheckpointRelay.Proofs.Relay.Marker
import CheckpointRelay.Proofs.Relay.Sent

/-!
# At most one commit

An operation broadcasts again only after it has been told that what it broadcast before has failed, and a ledger that
has a failure on record keeps it. So at most one of the transactions of an operation is ever committed, whatever other
writers do and whenever the ledger executes (`send_commits_once`). The result says which one, unless it leaves the last
transaction open.
-/

namespace CheckpointRelay.Relayer

open Dialogue

variable {r : Relayer} {calls : List ControllerCall} {L : Ledger} {tr : List Exchange} {res : Except Error String}

/-- A transaction is looked up under the name of what is broadcast. -/
theorem Prepared.txid_eq (p : r.Prepared calls) : p.sent.txid? = some p.txid := by
  obtain ⟨t, _, hprepare⟩ := ready_eq_ok.mp p.ready_eq
  obtain ⟨raw, signature, _, _, _, hsent, htxid⟩ := Node.prepare_eq_ok.mp hprepare
  rw [hsent, htxid]
  rfl

/-! ## What has become of what was broadcast -/

/-- Whether an error leaves open what becomes of the last transaction: it may have been accepted, by this broadcast or
an earlier one. -/
def LeavesOpen : Error → Prop
  | .failure (.unconfirmed _ _) | .failure (.node _) | .failure (.broadcastRejected _) => True
  | _ => False

/-- What a result tells about the transactions that have been broadcast in `tr`. -/
structure Fate (L : Ledger) (tr : List Exchange) (res : Except Error String) : Prop where
  /-- At most one broadcast is of a committed transaction. -/
  once : (sent tr).countP L.hasCommitted ≤ 1
  /-- After a success it is the one of that name. -/
  success : ∀ txid, res = .ok txid → ∃ t, (sent tr).filter L.hasCommitted = [t] ∧ t.txid? = some txid
  /-- After an error that leaves nothing open there is none. -/
  failure : ∀ e, res = .error e → ¬LeavesOpen e → ∀ t ∈ sent tr, L.hasCommitted t = false
  /-- After a refusal it is none that has been broadcast in any other way than to be refused. -/
  refusal : ∀ message,
    res = .error (.failure (.broadcastRejected message)) → ∀ t answer, broadcastExchange t answer ∈ tr →
    ¬Refused answer → L.hasCommitted t = false

namespace Fate

/-- Without a broadcast there is nothing to tell, unless of a success. -/
theorem of_nothing (hs : sent tr = []) (hr : ∀ txid, res ≠ .ok txid)
    (hb : ∀ t answer, broadcastExchange t answer ∉ tr) :
    Fate L tr res where
  once := by simp [hs]
  success txid h := absurd h (hr txid)
  failure e _ _ t ht := by
    rw [hs] at ht
    nomatch ht
  refusal message _ t answer hx := absurd hx (hb t answer)

/-- An operation that is refused before it asks anything has a fate in every ledger. -/
theorem of_refused (L : Ledger) (e : Error) : Fate L [] (.error e) := by
  refine .of_nothing rfl ?_ ?_
  · intro txid h
    cases h
  · intro t answer h
    cases h

/-- What was not committed before changes nothing. -/
theorem after {front back : List Exchange} (hf : ∀ t ∈ sent front, L.hasCommitted t = false) (hb : Fate L back res) :
    Fate L (front ++ back) res := by
  have hfilter : (sent front).filter L.hasCommitted = [] := List.filter_eq_nil_iff.mpr fun t ht => by simp [hf t ht]
  constructor
  · rw [sent_append, List.countP_append, List.countP_eq_length_filter, hfilter]
    simpa using hb.once
  · intro txid hres
    rw [sent_append, List.filter_append, hfilter]
    exact hb.success txid hres
  · intro e hres hopen t ht
    rw [sent_append] at ht
    rcases List.mem_append.mp ht with ht | ht
    · exact hf t ht
    · exact hb.failure e hres hopen t ht
  · intro message hres t answer hx hn
    rcases List.mem_append.mp hx with hx | hx
    · exact hf t (List.mem_filterMap.mpr ⟨_, hx, rfl⟩)
    · exact hb.refusal message hres t answer hx hn

end Fate

/-! ## What becomes of the transaction of an attempt -/

namespace CommitAux

/-- What a lookup has found decides about the transaction of an attempt. -/
theorem hasCommitted_found (p : r.Prepared calls) {receipt : Receipt} {n : Nat} {outcome : Outcome}
    (h : Agrees L (p.exchanges (.ok receipt) ++
      (r.emptyLookups p.txid n ++ [r.lookupExchange p.txid n (.ok (some outcome))]))) :
    L.hasCommitted p.sent = !outcome.isFailed := by
  obtain ⟨e, hr, rfl⟩ := h p.txid _ outcome
    (List.mem_append_right _ (List.mem_append_right _ (List.mem_singleton_self _)))
  simp [Ledger.hasCommitted, Ledger.committed, p.txid_eq, hr]

/-- An error that leaves the transaction of an attempt open tells nothing, unless of a refusal. -/
theorem fate_open {p : r.Prepared calls} {e : Error} (hs : sent tr = [p.sent]) (he : LeavesOpen e)
    (hr : ∀ message, e ≠ .failure (.broadcastRejected message)) : Fate L tr (.error e) where
  once := by
    rw [hs]
    exact List.countP_le_length
  success := nofun
  failure e' h hn := absurd (Except.error.inj h ▸ he) hn
  refusal message h := absurd (Except.error.inj h) (hr message)

end CommitAux

open CommitAux

/-- One attempt has its fate in every ledger that agrees with its answers. -/
theorem Attempt.fate (h : Attempt r calls tr res) (ha : Agrees L tr) : Fate L tr res := by
  -- an outcome that is found settles its transaction; all other endings have sent nothing or leave it open
  cases h with
  | tipUnread | noTip | unplanned | unbuilt | unready =>
    refine .of_nothing rfl nofun fun t answer hx => ?_
    simp [broadcastExchange, tipExchange, planExchange, buildExchange] at hx
  | unsent p cause => exact fate_open (p := p) rfl trivial nofun
  | unconfirmed p receipt _ => exact fate_open (p := p) (by simp) trivial nofun
  | unanswered p receipt n cause _ _ => exact fate_open (p := p) (by simp) trivial nofun
  | refused p receipt hr =>
    refine ⟨List.countP_le_length, nofun, fun e h hn => absurd (Except.error.inj h ▸ trivial) hn, ?_⟩
    intro message _ t answer hx hn
    have hanswer : answer = .ok receipt := by
      simp only [Prepared.exchanges, broadcastExchange, tipExchange, planExchange, buildExchange, List.mem_cons,
        List.not_mem_nil, or_false] at hx
      rcases hx with hx | hx | hx | hx <;> cases hx
      rfl
    exact absurd (hanswer ▸ hr : Refused answer) hn
  | found p receipt n outcome hr hn =>
    have hc := hasCommitted_found p ha
    have hsent : sent (p.exchanges (.ok receipt) ++
        (r.emptyLookups p.txid n ++ [r.lookupExchange p.txid n (.ok (some outcome))])) = [p.sent] := by simp
    refine ⟨hsent ▸ List.countP_le_length, ?_, ?_, ?_⟩
    · intro txid hres
      by_cases hf : outcome.isFailed = true
      · simp [settled, hf] at hres
      · obtain rfl : p.txid = txid := by simpa [settled, hf] using hres
        exact ⟨p.sent, by simp [hsent, hc, hf], p.txid_eq⟩
    · intro e hres _ t ht
      by_cases hf : outcome.isFailed = true
      · rw [hsent] at ht
        rw [List.mem_singleton.mp ht, hc, hf]
        rfl
      · simp [settled, hf] at hres
    · intro message hres
      by_cases hf : outcome.isFailed = true
      · simp [settled, hf] at hres
      · simp [settled, hf] at hres

/-- Nothing that an attempt broadcast is committed if it is followed by another one. -/
theorem Attempt.lost (h : Attempt r calls tr res) (hm : TipMismatch res) (ha : Agrees L tr) :
    ∀ t ∈ sent tr, L.hasCommitted t = false := by
  cases res with
  | ok txid => exact hm.elim
  | error e =>
    refine (h.fate ha).failure e rfl ?_
    cases e with
    | failure cause =>
      cases cause with
      | executionFailed txid message => exact id
      | _ => nomatch hm
    | _ => exact hm.elim

/-- Attempts before the last one have not committed anything. -/
theorem Retries.fate {left : Nat} {as : List AttemptRecord} (h : Retries r calls left as res)
    (ha : Agrees L (as.flatMap AttemptRecord.exchanges)) : Fate L (as.flatMap AttemptRecord.exchanges) res := by
  induction h with
  | spent => exact .of_refused L _
  | settled a h _ =>
    rw [List.flatMap_singleton] at ha ⊢
    exact h.fate ha
  | lost a h hm _ ih =>
    rw [List.flatMap_cons] at ha ⊢
    have hfront : Agrees L a.exchanges := fun name pause outcome hx => ha name pause outcome (List.mem_append_left _ hx)
    have hback : Agrees L _ := fun name pause outcome hx => ha name pause outcome (List.mem_append_right _ hx)
    exact .after (h.lost hm hfront) (ih hback)

/-! ## Operations -/

/-- A checkpointed sending has its fate in every ledger that agrees with its answers. -/
theorem fate_sendCheckpointed (h : Transcript (r.sendCheckpointed calls).run tr res) (ha : Agrees L tr) :
    Fate L tr res := by
  by_cases hv : r.settings.callValue = 0
  · obtain ⟨as, hr, rfl⟩ := (transcript_sendCheckpointed_iff hv).mp h
    exact hr.fate ha
  · simp only [sendCheckpointed, ne_eq, hv, not_false_eq_true, if_true] at h
    obtain ⟨rfl, rfl⟩ := transcript_throw_iff.mp h
    exact .of_refused L _

/-- So has the sending of a batch. -/
theorem fate_sendBatch (h : Transcript (r.sendBatch calls).run tr res) (ha : Agrees L tr) : Fate L tr res := by
  by_cases hc : calls = []
  · simp only [sendBatch, hc, if_true] at h
    obtain ⟨rfl, rfl⟩ := transcript_throw_iff.mp h
    exact .of_refused L _
  · simp only [sendBatch, hc, if_false] at h
    exact fate_sendCheckpointed h ha

/-- What is certain in every situation that an operation comes to, against a ledger that was `before` at its
beginning. -/
structure CommitsOnce (before : Ledger) (s : Situation) : Prop where
  /-- At most one broadcast so far is of a transaction that is committed. -/
  once : (sent s.asked).countP s.ledger.hasCommitted ≤ 1
  /-- After a success exactly the one of that name is. -/
  success : ∀ txid, s.doing = .done (.ok txid) →
    ∃ t, (sent s.asked).filter s.ledger.hasCommitted = [t] ∧ t.txid? = some txid
  /-- After an error that leaves nothing open none is. -/
  failure : ∀ e, s.doing = .done (.error e) → ¬LeavesOpen e → ∀ t ∈ sent s.asked, s.ledger.hasCommitted t = false
  /-- After a refusal none is, unless it was accepted before the operation began. -/
  refusal : ∀ message, s.doing = .done (.error (.failure (.broadcastRejected message))) → ∀ t ∈ sent s.asked,
    s.ledger.hasCommitted t = true → ∃ name, t.txid? = some name ∧ before.Knows name

/-- An operation whose transcripts have their fate commits once in every situation that it reaches. -/
theorem Reaches.commitsOnce {operation : RelayM String} {s : Situation}
    (hf : ∀ {L : Ledger} {tr : List Exchange} {res : Except Error String}, Transcript operation.run tr res →
      Agrees L tr → Fate L tr res)
    (h : Reaches operation L s) : CommitsOnce L s := by
  obtain ⟨rest, res, htr, ha, hdone⟩ := h.transcript
  have hfate := hf htr ha
  have hend : ∀ res', s.doing = .done res' → Fate s.ledger s.asked res' := by
    intro res' h'
    obtain ⟨rfl, rfl⟩ := hdone res' h'
    rwa [List.append_nil] at hfate
  constructor
  · have honce := hfate.once
    rw [sent_append, List.countP_append] at honce
    exact Nat.le_trans (Nat.le_add_right _ _) honce
  · intro txid h'
    exact (hend _ h').success txid rfl
  · intro e h' hopen
    exact (hend _ h').failure e rfl hopen
  · intro message h' t _ hc
    obtain ⟨name, hname, e, hr, hf⟩ :
        ∃ name, t.txid? = some name ∧ ∃ e, s.ledger.record name = some e ∧ e.outcome.isFailed = false := by
      simpa [Ledger.hasCommitted, Ledger.committed, Option.any_eq_true] using hc
    refine ⟨name, hname, ?_⟩
    obtain ⟨haccepted, htxid⟩ := s.ledger.recorded name e hr
    have hcommitted : s.ledger.hasCommitted e.transaction = true := by
      simp [Ledger.hasCommitted, Ledger.committed, htxid, hr, hf]
    -- the transaction on record need not be `t` itself, but it has its name
    rcases h.accepted e.transaction haccepted with hbefore | ⟨answer, hx, hn⟩
    · exact ⟨e.transaction, hbefore, htxid⟩
    · have hnot := (hend _ h').refusal message rfl e.transaction answer hx hn
      rw [hcommitted] at hnot
      nomatch hnot

/-- Sending a batch, or asserting the tip, commits at most one transaction, also after it has returned, and its result
says which one. -/
theorem send_commits_once {s : Situation} (h : Reaches (r.sendBatch calls) L s ∨ Reaches r.assertTip L s) :
    CommitsOnce L s := by
  rcases h with h | h
  · exact h.commitsOnce fate_sendBatch
  · exact h.commitsOnce fate_sendCheckpointed

/-! ## A run that commits -/

/-- A ledger goes through questions that it answers one after the other. -/
inductive Answered : Ledger → List Exchange → Ledger → Prop
  | nil (L : Ledger) : Answered L [] L
  | cons {L L' L'' : Ledger} {q : Query} {answer : q.Answer} {rest : List Exchange} (h : L.Answers q answer L')
    (hr : Answered L' rest L'') : Answered L (⟨q, answer⟩ :: rest) L''

/-- A ledger that answers the first questions of an operation brings it to what is still to be asked. -/
theorem exists_steps_of_answered {L L' : Ledger} {front back : List Exchange} (asked : List Exchange)
    (h : Answered L front L') {doing : Dialogue Query Query.Answer (Except Error String)}
    (htr : Transcript doing (front ++ back) res) :
    ∃ doing', Transcript doing' back res ∧
      Relation.ReflTransGen Step ⟨doing, L, asked⟩ ⟨doing', L', asked ++ front⟩ := by
  induction h generalizing asked doing with
  | nil L =>
    rw [List.append_nil]
    exact ⟨doing, htr, .refl⟩
  | @cons L L' L'' q answer rest hq _ ih =>
    cases htr with
    | ask htr =>
      obtain ⟨doing', htr', hsteps⟩ := ih (asked ++ [⟨q, answer⟩]) htr
      refine ⟨doing', htr', .head (.answer hq) ?_⟩
      rwa [List.append_assoc] at hsteps

/-- What an attempt asks whose first lookup finds an outcome. -/
def Prepared.foundExchanges (p : r.Prepared calls) (found : Outcome) : List Exchange :=
  p.exchanges (.ok ⟨true, ""⟩) ++ [r.lookupExchange p.txid 0 (.ok (some found))]

/-- An attempt whose first lookup finds an outcome ends with what that makes of it. -/
theorem Prepared.attempt_found (p : r.Prepared calls) (found : Outcome) (hlookups : 0 < r.settings.lookups.toNat) :
    Attempt r calls (p.foundExchanges found) (settled p.txid found) :=
  .found p ⟨true, ""⟩ 0 found rfl hlookups

/-- The ledger takes an attempt from its first question to the outcome of its transaction, which is executed as soon as
it is accepted and other writers have moved the tip. -/
theorem exists_steps_of_executed (p : r.Prepared calls) {L : Ledger} (moved : Tip) (e : Execution)
    (htransaction : e.transaction = p.sent) (hbefore : e.before = moved) (hfresh : L.record p.txid = none)
    (asked : List Exchange) {back : List Exchange} {doing : Dialogue Query Query.Answer (Except Error String)}
    (htr : Transcript doing (p.foundExchanges e.outcome ++ back) res) :
    ∃ L' doing', Transcript doing' back res ∧ L'.record = Function.update L.record p.txid (some e) ∧
      Relation.ReflTransGen Step ⟨doing, L, asked⟩ ⟨doing', L', asked ++ p.foundExchanges e.outcome⟩ := by
  have hopening : Answered L (p.exchanges (.ok ⟨true, ""⟩)) (L.accept p.sent) :=
    .cons (.constant _ _) (.cons (.plan _ _ _) (.cons (.build _ _ _) (.cons (.accepted _ _) (.nil _))))
  rw [Prepared.foundExchanges, List.append_assoc] at htr
  obtain ⟨doing', htr', hsteps⟩ := exists_steps_of_answered asked hopening htr
  let written : Ledger := { L.accept p.sent with tip := moved }
  have haccepted : e.transaction ∈ written.accepted := htransaction ▸ List.mem_cons_self
  have hname : e.transaction.txid? = some p.txid := htransaction ▸ p.txid_eq
  let executed : Ledger := written.execute p.txid e haccepted hname
  have hwrite : (L.accept p.sent).Drift written := .write moved
  have hexecute : written.Drift executed := .execute p.txid e haccepted hname hfresh hbefore
  have hfound : Answered executed [r.lookupExchange p.txid 0 (.ok (some e.outcome))] executed :=
    .cons (.found _ _ e (Function.update_self ..)) (.nil _)
  obtain ⟨doing'', htr'', hsteps'⟩ := exists_steps_of_answered (asked ++ p.exchanges (.ok ⟨true, ""⟩)) hfound htr'
  refine ⟨executed, doing'', htr'', rfl, ?_⟩
  rw [List.append_assoc] at hsteps'
  exact hsteps.trans (.head (.drift hwrite) (.head (.drift hexecute) hsteps'))

/-- A transaction that is sent asserts the tip that the planned events make, in its own block. -/
theorem SentFor.asserts {tip : Tip} {events : List Event} {built sent : Transaction} {txid : String}
    {before after : RawTransaction} (h : SentFor r calls tip events built sent txid before after) :
    ∃ block, sent.block? = some block ∧ sent.assertedTip? = some (EventChain.fold block tip events) := by
  obtain ⟨block, call, data, -, hblock, -, hcall, hdecode⟩ := h.batch
  refine ⟨block, ?_, ?_⟩
  · exact Transaction.block?_eq h.raw.2 hblock
  · rw [Transaction.assertedTip?_eq hcall hdecode, assertedTip?_encode]

/-- A transaction can succeed at the tip from which it was planned. -/
theorem Prepared.exists_execution (p : r.Prepared calls) (hlength : p.sent.encode.length < Bytes.maxLength) :
    ∃ e : Execution, e.transaction = p.sent ∧ e.before = p.tip ∧ e.outcome = {} := by
  obtain ⟨before, after, hfor⟩ := sentFor_of_ready p.ready_eq hlength
  obtain ⟨block, hblock, hasserted⟩ := hfor.asserts
  exact ⟨⟨p.sent, p.tip, p.events, {}, fun _ => ⟨block, hblock, hasserted⟩⟩, rfl, rfl, rfl⟩

/-- The execution of a transaction that reverts with the text `no`. -/
def Prepared.lostExecution (p : r.Prepared calls) (moved : Tip) : Execution where
  transaction := p.sent
  before := moved
  emitted := []
  outcome := .reverted p.txid 10 (Revert.errorData "no")
  checked h := nomatch h

/-- That revert is what another attempt follows. -/
theorem tipMismatch_reverted (txid : String) (block : UInt64) :
    TipMismatch (settled txid (.reverted txid block (Revert.errorData "no"))) := by
  rw [settled, Outcome.isFailed_reverted, if_pos rfl]
  exact (isTipMismatch_describe _ _).mpr (Or.inr (Outcome.revertedWithNo_reverted _ _))

/-- Another writer moves the tip behind the first broadcast, whose transaction then reverts. The second attempt reads
the new tip, and its transaction commits. -/
theorem exists_contended (p p' : r.Prepared calls) (hvalue : r.settings.callValue = 0)
    (hlookups : 0 < r.settings.lookups.toNat) (hlength : p'.sent.encode.length < Bytes.maxLength)
    (hne : p'.txid ≠ p.txid) (hfresh : L.record p.txid = none) (hfresh' : L.record p'.txid = none) :
    ∃ s, Reaches (r.sendCheckpointed calls) L s ∧ s.doing = .done (.ok p'.txid) ∧ sent s.asked = [p.sent, p'.sent] ∧
      s.ledger.committed p.txid = false ∧ s.ledger.committed p'.txid = true := by
  -- the first transaction is executed on the tip that the second one will find, so its assertion fails
  let e := p.lostExecution p'.tip
  obtain ⟨e', htransaction', hbefore', houtcome'⟩ := p'.exists_execution hlength
  have hattempt : Attempt r calls (p.foundExchanges e.outcome) (settled p.txid e.outcome) :=
    p.attempt_found e.outcome hlookups
  have hattempt' : Attempt r calls (p'.foundExchanges e'.outcome) (.ok p'.txid) := by
    rw [houtcome']
    exact p'.attempt_found {} hlookups
  have hretries : Retries r calls attempts
      [⟨p.foundExchanges e.outcome, settled p.txid e.outcome⟩, ⟨p'.foundExchanges e'.outcome, .ok p'.txid⟩]
      (.ok p'.txid) :=
    .lost _ hattempt (tipMismatch_reverted _ _) (.settled ⟨_, .ok p'.txid⟩ hattempt' id)
  have htr : Transcript (r.sendCheckpointed calls).run
      (p.foundExchanges e.outcome ++ (p'.foundExchanges e'.outcome ++ [])) (.ok p'.txid) :=
    (transcript_sendCheckpointed_iff hvalue).mpr ⟨_, hretries, rfl⟩
  obtain ⟨L', doing, hdoing, hrecord, hsteps⟩ := exists_steps_of_executed p p'.tip e rfl rfl hfresh [] htr
  have hfresh'' : L'.record p'.txid = none := by
    rw [hrecord, Function.update_of_ne hne]
    exact hfresh'
  obtain ⟨L'', doing', hdone, hrecord', hsteps'⟩ :=
    exists_steps_of_executed p' p'.tip e' htransaction' hbefore' hfresh'' _ hdoing
  cases hdone
  have hlost : L''.committed p.txid = false := by
    rw [Ledger.committed, hrecord', Function.update_of_ne hne.symm, hrecord, Function.update_self]
    rfl
  have hcommitted : L''.committed p'.txid = true := by
    rw [Ledger.committed, hrecord', Function.update_self, Option.any_some, houtcome']
    rfl
  exact ⟨_, hsteps.trans hsteps', rfl, rfl, hlost, hcommitted⟩

/-- The tip that another writer moves the chain to. -/
def movedTip : Tip := Octets.ofNat 32 0

/-- The ledger before anything has been accepted. -/
def emptyLedger : Ledger := ⟨Plan.sampleNumber.toWord, [], fun _ => none, nofun⟩

/-- The sample key signs the second transaction, which asserts the moved tip. -/
theorem signs_moved : (sampleSender.signer.sign? (sampleSigned 8 (sampleAfter 8 movedTip)).digest).isSome = true := by
  decide +kernel

/-- The second transaction is short enough to be posted. -/
theorem length_moved : (sampleSigned 8 (sampleAfter 8 movedTip)).encode.length < UInt32.size := by
  decide +kernel

/-- The two transactions have different names. -/
theorem txid_sampleSigned_ne : (sampleSigned 8 (sampleAfter 8 movedTip)).txid ≠
    (sampleSigned 7 (sampleAfter 7 Plan.sampleNumber.toWord)).txid := by
  decide +kernel

/-- The sample batch is sent while another writer moves the tip: its first transaction reverts, and its second one is
the one that commits. -/
theorem send_commits_once_sample : ∃ s lost txid, Reaches (sampleSender.sendBatch sampleBatch) emptyLedger s ∧
    s.doing = .done (.ok txid) ∧ (sent s.asked).filterMap Transaction.txid? = [lost, txid] ∧
    s.ledger.committed lost = false ∧ s.ledger.committed txid = true ∧ CommitsOnce emptyLedger s := by
  obtain ⟨p, -, -, -, hp, -⟩ := exists_samplePrepared (show (0 : Int64) ≤ 7 by decide) Plan.sampleNumber.toWord
    signs_first length_first
  obtain ⟨p', -, -, -, hp', hlength⟩ := exists_samplePrepared (show (0 : Int64) ≤ 8 by decide) movedTip
    signs_moved length_moved
  have hne : p'.txid ≠ p.txid := hp ▸ hp' ▸ txid_sampleSigned_ne
  obtain ⟨s, hreach, hdone, hsent, hlost, hcommitted⟩ := exists_contended (L := emptyLedger) p p' rfl
    (show 0 < sampleSender.settings.lookups.toNat by decide) hlength hne rfl rfl
  have hnames : (sent s.asked).filterMap Transaction.txid? = [p.txid, p'.txid] := by
    rw [hsent]
    simp only [List.filterMap_cons, p.txid_eq, p'.txid_eq, List.filterMap_nil]
  have hbatch : Reaches (sampleSender.sendBatch sampleBatch) emptyLedger s := hreach
  exact ⟨s, p.txid, p'.txid, hbatch, hdone, hnames, hlost, hcommitted, send_commits_once (Or.inl hbatch)⟩

end CheckpointRelay.Relayer
