import CheckpointRelay.Proofs.Node.Confirm
import CheckpointRelay.Proofs.Relay.Attempt

/-!
# What an attempt asks

The courses of `Attempt` are those that an attempt takes: it takes no other one (`attempt_course`), and each of them is
taken when the questions are answered as it says (`Attempt.transcript`). What it asks to send its transaction is a
`Confirmation` of the node.
-/

namespace CheckpointRelay.Relayer

open Dialogue

/-! ## Transcripts of questions to the node -/

/-- What is asked of the node in an operation is what the node would be asked on its own. -/
theorem transcript_interpret_node {α : Type} {d : Dialogue Node.Query Node.Query.Answer α} {tr : List Exchange} {a : α}
    (h : Transcript (d.interpret fun q => (question (Query.node q) : Dialogue Query Query.Answer _)) tr a) :
    ∃ own, tr = own.map nodeExchange ∧ Transcript d own a := by
  induction d generalizing tr with
  | done b =>
    obtain ⟨rfl, rfl⟩ := transcript_done_iff.mp h
    exact ⟨[], rfl, .done a⟩
  | ask q next ih =>
    obtain ⟨answer, rest, rfl, hr⟩ := transcript_ask_iff.mp h
    obtain ⟨own, rfl, ho⟩ := ih answer hr
    exact ⟨⟨q, answer⟩ :: own, rfl, .ask ho⟩

/-- What the node would be asked on its own is what is asked of it in an operation. -/
theorem interpret_node_transcript {α : Type} {d : Dialogue Node.Query Node.Query.Answer α} {own : List Node.Exchange}
    {a : α} (h : Transcript d own a) :
    Transcript (d.interpret fun q => (question (Query.node q) : Dialogue Query Query.Answer _))
      (own.map nodeExchange) a := by
  induction h with
  | done a => exact .done a
  | ask _ ih => exact .ask ih

/-- Work with the node whose failure is a result asks what the node would be asked on its own. -/
theorem transcript_attemptNode {α : Type} {d : NodeM α} {tr : List Exchange} {res : Except Error (Except Failure α)}
    (h : Transcript (attemptNode d).run tr res) :
    ∃ own r, tr = own.map nodeExchange ∧ Transcript d.run own r ∧ res = .ok r := by
  obtain ⟨front, r, back, rfl, hd, hb⟩ := transcript_bind_iff.mp h
  obtain ⟨rfl, rfl⟩ := transcript_done_iff.mp hb
  obtain ⟨own, rfl, ho⟩ := transcript_interpret_node hd
  exact ⟨own, r, by rw [List.append_nil], ho, rfl⟩

/-- What the node would be asked on its own can be asked in work whose failure is a result. -/
theorem attemptNode_transcript {α : Type} {d : NodeM α} {own : List Node.Exchange} {c : Except Failure α}
    (h : Transcript d.run own c) : Transcript (attemptNode d).run (own.map nodeExchange) (.ok c) :=
  transcript_bind_iff.mpr ⟨_, c, [], (List.append_nil _).symm, interpret_node_transcript h, .done _⟩

/-- One question to the node in an operation. -/
theorem transcript_askNode {q : Node.Query} {tr : List Exchange} {res : Except Error q.Content}
    (h : Transcript (askNode (NodeM.answered (question q))).run tr res) :
    ∃ answer : q.Answer, tr = [nodeExchange ⟨q, answer⟩] ∧ res = answer.mapError fun cause =>
      .failure (.node cause) := by
  obtain ⟨front, r, back, rfl, hd, hb⟩ := transcript_bind_iff.mp h
  obtain ⟨rfl, rfl⟩ := transcript_done_iff.mp hb
  obtain ⟨own, rfl, ho⟩ := transcript_interpret_node hd
  obtain ⟨answer, rfl, rfl⟩ := Node.transcript_answered ho
  refine ⟨answer, rfl, ?_⟩
  cases answer <;> rfl

/-! ## Transcripts of the steps -/

namespace AttemptAux

variable {r : Relayer} {calls : List ControllerCall} {tr : List Exchange}

/-- The planner is asked once. -/
theorem transcript_plan {res : Except Error (List Event)} (h : Transcript (plan r.controller calls).run tr res) :
    ∃ answer : Except Report (List Event), tr = [r.planExchange calls answer] ∧ res = answer.mapError .planning := by
  obtain ⟨front, answer, back, rfl, hq, hb⟩ := transcript_bind_iff.mp h
  obtain ⟨rfl, rfl⟩ := transcript_done_iff.mp hb
  rw [transcript_question_iff.mp hq]
  exact ⟨answer, rfl, rfl⟩

/-- A step of one question ends the attempt with its failure, or is followed by what is done with its answer. -/
theorem transcript_question_bind {α β : Type} {step : RelayM α} {next : α → RelayM β}
    {exchange : Except Report α → Exchange} {failure : Report → Error} {res : Except Error β}
    (hstep : ∀ {tr res}, Transcript step.run tr res → ∃ answer, tr = [exchange answer] ∧ res = answer.mapError failure)
    (h : Transcript (step >>= next).run tr res) :
    (∃ cause, tr = [exchange (.error cause)] ∧ res = .error (failure cause)) ∨
    ∃ a rest, tr = exchange (.ok a) :: rest ∧ Transcript (next a).run rest res := by
  rcases transcript_except_bind h with ⟨e, hq, rfl⟩ | ⟨front, a, rest, rfl, hq, hrest⟩
  · obtain ⟨answer, rfl, hr⟩ := hstep hq
    cases answer with
    | ok a => nomatch hr
    | error cause => exact Or.inl ⟨cause, rfl, congrArg Except.error (Except.error.inj hr)⟩
  · obtain ⟨answer, rfl, hr⟩ := hstep hq
    cases answer with
    | error cause => nomatch hr
    | ok made =>
      obtain rfl : a = made := Except.ok.inj hr
      exact Or.inr ⟨a, rest, rfl, hrest⟩

/-- The tip is unread, read as something else, or read. -/
theorem transcript_eventChainTip {res : Except Error Tip} (h : Transcript r.eventChainTip.run tr res) :
    (∃ cause, tr = [r.tipExchange (.error cause)] ∧ res = .error (.failure (.node cause))) ∨
    ∃ raw, tr = [r.tipExchange (.ok raw)] ∧ res = (Abi.wordOf raw 0).mapError .read := by
  rcases transcript_question_bind transcript_askNode h with ⟨cause, rfl, rfl⟩ | ⟨raw, rest, rfl, hrest⟩
  · exact Or.inl ⟨cause, rfl, rfl⟩
  · obtain ⟨rfl, rfl⟩ := transcript_done_iff.mp hrest
    exact Or.inr ⟨raw, rfl, rfl⟩

/-- The first three steps of an attempt end it, or go well and are followed by the others. -/
theorem transcript_opening {next : Tip → List Event → Transaction → RelayM AttemptEnd} {res : Except Error AttemptEnd}
    (h : Transcript (r.eventChainTip >>= fun tip => plan r.controller calls >>= fun events =>
      askNode (Node.build (r.batchCall calls) r.settings.feeLimit) >>= next tip events).run tr res) :
    (∃ ending, Attempt r calls tr ending ∧ res = verdict ending) ∨
    ∃ raw tip events built rest, Abi.wordOf raw 0 = .ok tip ∧ Transcript (next tip events built).run rest res ∧
      tr = r.tipExchange (.ok raw) :: r.planExchange calls (.ok events) :: r.buildExchange calls (.ok built) ::
        rest := by
  rcases transcript_except_bind h with ⟨e, htip, rfl⟩ | ⟨asked, tip, rest, rfl, htip, hafter⟩
  · refine Or.inl ⟨.error e, ?_⟩
    rcases transcript_eventChainTip htip with ⟨cause, rfl, hr⟩ | ⟨raw, rfl, hr⟩
    · obtain rfl := Except.error.inj hr
      exact ⟨.tipUnread cause, rfl⟩
    · cases hraw : Abi.wordOf raw 0 with
      | ok tip =>
        rw [hraw] at hr
        nomatch hr
      | error cause =>
        rw [hraw] at hr
        obtain rfl := Except.error.inj hr
        exact ⟨.noTip raw cause hraw, rfl⟩
  obtain ⟨raw, rfl, hraw⟩ : ∃ raw, asked = [r.tipExchange (.ok raw)] ∧ Abi.wordOf raw 0 = .ok tip := by
    rcases transcript_eventChainTip htip with ⟨cause, -, hr⟩ | ⟨raw, rfl, hr⟩
    · nomatch hr
    · exact ⟨raw, rfl, Result.mapError_eq_ok.mp hr.symm⟩
  rcases transcript_question_bind transcript_plan hafter with ⟨cause, rfl, rfl⟩ | ⟨events, rest, rfl, hbuild⟩
  · exact Or.inl ⟨_, .unplanned raw tip cause hraw, rfl⟩
  rcases transcript_question_bind transcript_askNode hbuild with ⟨cause, rfl, rfl⟩ | ⟨built, rest, rfl, hnext⟩
  · exact Or.inl ⟨_, .unbuilt raw tip events cause hraw, rfl⟩
  exact Or.inr ⟨raw, tip, events, built, rest, hraw, hnext, rfl⟩

/-- What is asked once a transaction has been built is one of the ways to confirm it, and ends the attempt. -/
theorem attempt_of_confirmation {raw : Bytes} {tip : Tip} {events : List Event} {built t : Transaction}
    (htip : Abi.wordOf raw 0 = .ok tip) (ht : withAssertion calls tip events built = .ok t) {own : List Node.Exchange}
    {res : Except Failure String} (h : Node.Confirmation r.settings.toConfirmSettings r.signer t own res) :
    Attempt r calls
      (r.tipExchange (.ok raw) :: r.planExchange calls (.ok events) :: r.buildExchange calls (.ok built) ::
        own.map nodeExchange)
      (res.mapError .failure) := by
  have hready : r.ready calls tip events built = Node.prepare r.settings.toConfirmSettings r.signer t := by
    rw [ready, ht]
    rfl
  let prepared (q : Node.Ready r.settings.toConfirmSettings r.signer t) : r.Prepared calls :=
    ⟨raw, tip, events, built, q.sent, q.txid, htip, hready.trans (Node.prepare_of_ready q)⟩
  cases h with
  | negativeLimit h => exact .unready raw tip events built _ htip (hready.trans (Node.prepare_of_negative h))
  | noRaw hlimit h => exact .unready raw tip events built _ htip (hready.trans (Node.prepare_of_noRaw hlimit h))
  | unsigned hlimit raw' hraw h =>
    exact .unready raw tip events built _ htip (hready.trans (Node.prepare_of_unsigned hlimit hraw h))
  | unsent q cause => exact .unsent (prepared q) cause
  | refused q receipt ha => exact .refused (prepared q) receipt ha
  | accepted q receipt ha hlookups =>
    cases hlookups with
    | unanswered n hn cause =>
      rw [List.map_cons, List.map_append]
      exact .unanswered (prepared q) receipt n cause ha hn
    | failed n hn found hfailed =>
      rw [List.map_cons, List.map_append]
      have hend := Attempt.found (prepared q) receipt n found ha hn
      rwa [settled, if_pos hfailed] at hend
    | succeeded n hn found hfailed =>
      rw [List.map_cons, List.map_append]
      have hend := Attempt.found (prepared q) receipt n found ha hn
      rwa [settled, if_neg (Bool.eq_false_iff.mp hfailed)] at hend
    | unconfirmed => exact .unconfirmed (prepared q) receipt ha

end AttemptAux

open AttemptAux

/-- Every attempt takes one of the courses of `Attempt`, and all that becomes of its end is the verdict on it. -/
theorem attempt_course {r : Relayer} {calls : List ControllerCall} {tr : List Exchange} {res : Except Error AttemptEnd}
    (h : Transcript (r.attempt calls).run tr res) : ∃ ending, Attempt r calls tr ending ∧ res = verdict ending := by
  -- behind the opening only the confirmation by the node asks: the assertion is added without a question
  rcases transcript_opening h with hend | ⟨raw, tip, events, built, rest, hraw, hnext, rfl⟩
  · exact hend
  rcases transcript_except_bind hnext with ⟨e, hcheck, rfl⟩ | ⟨asked, t, rest, rfl, hcheck, hsubmit⟩
  · obtain ⟨rfl, hr⟩ := transcript_done_iff.mp hcheck
    cases ht : withAssertion calls tip events built with
    | ok t => rw [ht] at hr; nomatch hr
    | error cause =>
      rw [ht] at hr
      obtain rfl := Except.error.inj hr
      refine ⟨_, .unready raw tip events built cause hraw ?_, rfl⟩
      rw [ready, ht]
      rfl
  obtain ⟨rfl, hr⟩ := transcript_done_iff.mp hcheck
  have ht : withAssertion calls tip events built = .ok t := by
    cases ht : withAssertion calls tip events built with
    | error cause => rw [ht] at hr; nomatch hr
    | ok made => rw [ht] at hr; rw [Except.ok.inj hr]
  rcases transcript_except_bind hsubmit with ⟨e, hconfirm, rfl⟩ | ⟨asked, outcome, rest, rfl, hconfirm, hend⟩
  · obtain ⟨own, c, rfl, hd, hr⟩ := transcript_attemptNode hconfirm
    nomatch hr
  obtain ⟨own, c, rfl, hd, hr⟩ := transcript_attemptNode hconfirm
  obtain rfl : outcome = c := Except.ok.inj hr
  refine ⟨outcome.mapError .failure, ?_⟩
  have hcourse := attempt_of_confirmation hraw ht (Node.confirmation_of_transcript hd)
  cases outcome with
  | ok txid =>
    obtain ⟨rfl, rfl⟩ := transcript_pure_iff.mp hend
    exact ⟨by simpa using hcourse, rfl⟩
  | error cause =>
    by_cases hm : isTipMismatch cause = true
    · simp only [hm, if_true] at hend
      obtain ⟨rfl, rfl⟩ := transcript_pure_iff.mp hend
      exact ⟨by simpa using hcourse, (if_pos hm).symm⟩
    · simp only [hm, Bool.false_eq_true, if_false] at hend
      obtain ⟨rfl, rfl⟩ := transcript_throw_iff.mp hend
      exact ⟨by simpa using hcourse, (if_neg hm).symm⟩

/-! ## Every course can be taken -/

namespace AttemptAux

variable {r : Relayer} {calls : List ControllerCall} {own : List Node.Exchange}

/-- What is answered to the question for the tip is read as a word. -/
theorem eventChainTip_transcript (raw : Bytes) :
    Transcript r.eventChainTip.run [r.tipExchange (.ok raw)] ((Abi.wordOf raw 0).mapError .read) :=
  .ask (.done _)

/-- A tip that can be read is read. -/
theorem tip_transcript {raw : Bytes} {tip : Tip} (h : Abi.wordOf raw 0 = .ok tip) :
    Transcript r.eventChainTip.run [r.tipExchange (.ok raw)] (.ok tip) := by
  have hread := eventChainTip_transcript (r := r) raw
  rwa [h] at hread

/-- What cannot be read as a tip ends the attempt. -/
theorem noTip_transcript {raw : Bytes} {cause : Abi.DecodeError} (h : Abi.wordOf raw 0 = .error cause) :
    Transcript (r.attempt calls).run [r.tipExchange (.ok raw)] (.error (.read cause)) := by
  have hread := eventChainTip_transcript (r := r) raw
  rw [h] at hread
  exact hread.except_error

/-- A transaction that the assertion cannot be put into ends the attempt. -/
theorem unasserted_transcript {raw : Bytes} {tip : Tip} {events : List Event} {built : Transaction}
    {cause : Transaction.Error} (htip : Abi.wordOf raw 0 = .ok tip)
    (h : withAssertion calls tip events built = .error cause) :
    Transcript (r.attempt calls).run
      [r.tipExchange (.ok raw), r.planExchange calls (.ok events), r.buildExchange calls (.ok built)]
      (.error (.failure cause.toFailure)) := by
  have hchecked : Transcript (checked (withAssertion calls tip events built)).run []
      (.error (.failure cause.toFailure)) := by
    rw [h]
    exact .done _
  exact (tip_transcript htip).except_ok (.ask (.ask hchecked.except_error))

/-- The verdict on what comes of a transaction ends the attempt, or is that the tip has moved. -/
theorem verdict_transcript (c : Except Failure String) :
    Transcript (match c with
      | .ok txid => pure (AttemptEnd.committed txid)
      | .error cause => if isTipMismatch cause then pure AttemptEnd.tipMoved else throw (Error.failure cause) :
        RelayM AttemptEnd).run [] (verdict (c.mapError .failure)) := by
  cases c with
  | ok txid => exact .done _
  | error cause =>
    show Transcript (if isTipMismatch cause then pure AttemptEnd.tipMoved else throw (Error.failure cause) :
        RelayM AttemptEnd).run []
          (if isTipMismatch cause then .ok AttemptEnd.tipMoved else .error (Error.failure cause))
    split
    · exact .done _
    · exact .done _

/-- The steps up to the assertion, when they go well, are followed by what is asked of the node for the transaction. -/
theorem submit_transcript {raw : Bytes} {tip : Tip} {events : List Event} {built t : Transaction}
    {c : Except Failure String} (htip : Abi.wordOf raw 0 = .ok tip)
    (ht : withAssertion calls tip events built = .ok t)
    (h : Transcript (Node.confirm r.settings.toConfirmSettings r.signer t).run own c) :
    Transcript (r.attempt calls).run
      (r.tipExchange (.ok raw) :: r.planExchange calls (.ok events) :: r.buildExchange calls (.ok built) ::
        own.map nodeExchange)
      (verdict (c.mapError .failure)) := by
  have hchecked : Transcript (checked (withAssertion calls tip events built)).run [] (.ok t) := by
    rw [ht]
    exact .done _
  rw [← List.append_nil (own.map nodeExchange)]
  exact (tip_transcript htip).except_ok (.ask (.ask (hchecked.except_ok
    ((attemptNode_transcript h).except_ok (verdict_transcript c)))))

/-- A transaction that cannot be made ready ends the attempt. -/
theorem unready_transcript {raw : Bytes} {tip : Tip} {events : List Event} {built : Transaction}
    {cause : Transaction.Error} (htip : Abi.wordOf raw 0 = .ok tip)
    (h : r.ready calls tip events built = .error cause) :
    Transcript (r.attempt calls).run
      [r.tipExchange (.ok raw), r.planExchange calls (.ok events), r.buildExchange calls (.ok built)]
      (verdict (.error (.failure cause.toFailure))) := by
  cases ht : withAssertion calls tip events built with
  | error e =>
    rw [ready, ht] at h
    obtain rfl : e = cause := Except.error.inj h
    exact unasserted_transcript htip ht
  | ok t =>
    rw [ready, ht] at h
    have hnone : Transcript (Node.confirm r.settings.toConfirmSettings r.signer t).run [] (.error cause.toFailure) := by
      rw [Node.run_confirm_of_error h]
      exact .done _
    exact submit_transcript htip ht hnone

/-- A prepared attempt asks of the node what it takes to confirm its transaction, in any of the ways to do that. -/
theorem prepared_transcript (p : r.Prepared calls) {answer : Except Report Receipt} {res : Except Failure String}
    (h : ∀ t (q : Node.Ready r.settings.toConfirmSettings r.signer t), p.sent = q.sent → p.txid = q.txid →
      Node.Confirmation r.settings.toConfirmSettings r.signer t (⟨.broadcast q.sent, answer⟩ :: own) res) :
    Transcript (r.attempt calls).run (p.exchanges answer ++ own.map nodeExchange)
      (verdict (res.mapError .failure)) := by
  obtain ⟨t, ht, hprepare⟩ := ready_eq_ok.mp p.ready_eq
  obtain ⟨q, hsent, htxid⟩ := Node.ready_of_prepare hprepare
  have hconfirm := Node.transcript_of_confirmation (h t q hsent htxid)
  rw [← hsent] at hconfirm
  exact submit_transcript p.tip_eq ht hconfirm

/-- An accepted transaction is looked up, in any of the ways to do that. -/
theorem accepted_transcript (p : r.Prepared calls) {receipt : Receipt} (ha : receipt.accepted = true)
    {res : Except Failure String} (h : Node.Lookups r.settings.toConfirmSettings p.txid own res) :
    Transcript (r.attempt calls).run (p.exchanges (.ok receipt) ++ own.map nodeExchange)
      (verdict (res.mapError .failure)) :=
  prepared_transcript p fun _ q _ htxid => .accepted q receipt ha (htxid ▸ h)

/-- The outcome of an accepted transaction settles the attempt. -/
theorem found_transcript (p : r.Prepared calls) {receipt : Receipt} (ha : receipt.accepted = true) {n : Nat}
    (hn : n < r.settings.lookups.toNat) (found : Outcome) :
    Transcript (r.attempt calls).run
      (p.exchanges (.ok receipt) ++ (r.emptyLookups p.txid n ++ [r.lookupExchange p.txid n (.ok (some found))]))
      (verdict (settled p.txid found)) := by
  rw [emptyLookups, lookupExchange, ← List.map_singleton, ← List.map_append]
  cases hfailed : found.isFailed with
  | true =>
    rw [settled, if_pos hfailed]
    exact accepted_transcript p ha (.failed n hn found hfailed)
  | false =>
    rw [settled, if_neg (Bool.eq_false_iff.mp hfailed)]
    exact accepted_transcript p ha (.succeeded n hn found hfailed)

end AttemptAux

/-- Every course of an attempt can be taken. -/
theorem Attempt.transcript {r : Relayer} {calls : List ControllerCall} {tr : List Exchange}
    {ending : Except Error String} (h : Attempt r calls tr ending) :
    Transcript (r.attempt calls).run tr (verdict ending) := by
  cases h with
  | tipUnread cause => exact .ask (.done _)
  | noTip raw cause h => exact noTip_transcript h
  | unplanned raw tip cause h => exact (tip_transcript h).except_ok (.ask (.done _))
  | unbuilt raw tip events cause h => exact (tip_transcript h).except_ok (.ask (.ask (.done _)))
  | unready raw tip events built cause htip h => exact unready_transcript htip h
  | unsent p cause => exact @prepared_transcript _ _ [] p _ (.error (.node cause)) fun _ q _ _ => .unsent q cause
  | refused p receipt hr =>
    exact @prepared_transcript _ _ [] p _ (.error (Node.rejection receipt)) fun _ q _ _ => .refused q receipt hr
  | unconfirmed p receipt ha => exact accepted_transcript p ha .unconfirmed
  | unanswered p receipt n cause ha hn =>
    rw [emptyLookups, lookupExchange, ← List.map_singleton, ← List.map_append]
    exact accepted_transcript p ha (.unanswered n hn cause)
  | found p receipt n outcome ha hn => exact found_transcript p ha hn outcome

end CheckpointRelay.Relayer
