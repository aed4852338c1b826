import CheckpointRelay.Proofs.Relay.Course

/-!
# The course of an operation

An operation that sends a batch is one to three attempts, one after the other. Another attempt follows exactly when one
of the first two ends in the revert of its assertion; any other end is the end of the operation. Whatever the node and
the planner answer, nothing else is asked (`send_course`).
-/

namespace CheckpointRelay.Relayer

open Dialogue

/-- What an attempt asked and how it ended. -/
structure AttemptRecord where
  exchanges : List Exchange
  ending : Except Error String

/-- The attempts of an operation that has `left` of them, and its result. -/
inductive Retries (r : Relayer) (calls : List ControllerCall) : Nat → List AttemptRecord → Except Error String → Prop
  /-- There is no attempt left. -/
  | spent : Retries r calls 0 [] (.error (.checkpointExhausted attempts))
  /-- An attempt settles the operation. -/
  | settled {left : Nat} (a : AttemptRecord) (h : Attempt r calls a.exchanges a.ending) (hm : ¬TipMismatch a.ending) :
    Retries r calls (left + 1) [a] a.ending
  /-- An attempt lost against another writer and is followed by others. -/
  | lost {left : Nat} (a : AttemptRecord) {later : List AttemptRecord} {res : Except Error String}
    (h : Attempt r calls a.exchanges a.ending) (hm : TipMismatch a.ending) (hl : Retries r calls left later res) :
    Retries r calls (left + 1) (a :: later) res

/-! ## Transcripts are made of attempts -/

/-- A transcript of the sending with attempts left is made of retries, one behind the other. -/
theorem transcript_tryBatch {r : Relayer} {calls : List ControllerCall} {left : Nat} {tr : List Exchange}
    {res : Except Error String} (h : Transcript (r.tryBatch calls left).run tr res) :
    ∃ as, Retries r calls left as res ∧ tr = as.flatMap AttemptRecord.exchanges := by
  -- on the attempts left: only a lost one leads to another
  induction left generalizing tr with
  | zero =>
    obtain ⟨rfl, rfl⟩ := transcript_throw_iff.mp h
    exact ⟨[], .spent, rfl⟩
  | succ left ih =>
    rcases transcript_except_bind h with ⟨e, ha, rfl⟩ | ⟨front, last, back, rfl, ha, hb⟩
    · obtain ⟨ending, hattempt, hv⟩ := attempt_course ha
      rcases verdict_cases ending with ⟨_, hw⟩ | ⟨hm, ⟨txid, _, hw⟩ | ⟨e', rfl, hw⟩⟩
      · nomatch hv.trans hw
      · nomatch hv.trans hw
      · obtain rfl : e = e' := Except.error.inj (hv.trans hw)
        exact ⟨[⟨tr, .error e⟩], .settled ⟨tr, .error e⟩ hattempt hm, by simp⟩
    · obtain ⟨ending, hattempt, hv⟩ := attempt_course ha
      rcases verdict_cases ending with ⟨hm, hw⟩ | ⟨hm, ⟨txid, rfl, hw⟩ | ⟨e, _, hw⟩⟩
      · obtain rfl := Except.ok.inj (hv.trans hw)
        obtain ⟨later, hl, rfl⟩ := ih hb
        exact ⟨⟨front, ending⟩ :: later, .lost ⟨front, ending⟩ hattempt hm hl, rfl⟩
      · obtain rfl := Except.ok.inj (hv.trans hw)
        obtain ⟨rfl, rfl⟩ := transcript_pure_iff.mp hb
        exact ⟨[⟨front, .ok txid⟩], .settled ⟨front, .ok txid⟩ hattempt hm, by simp⟩
      · nomatch hv.trans hw

/-- Attempts that follow each other as they should are what is asked, if the questions are answered so. -/
theorem Retries.transcript {r : Relayer} {calls : List ControllerCall} {left : Nat} {as : List AttemptRecord}
    {res : Except Error String} (h : Retries r calls left as res) :
    Transcript (r.tryBatch calls left).run (as.flatMap AttemptRecord.exchanges) res := by
  induction h with
  | spent => exact .done _
  | settled a h hm =>
    have hattempt := h.transcript
    rw [List.flatMap_singleton]
    rcases verdict_cases a.ending with ⟨hm', _⟩ | ⟨_, ⟨txid, he, hv⟩ | ⟨e, he, hv⟩⟩
    · exact absurd hm' hm
    · rw [hv] at hattempt
      rw [he, ← List.append_nil a.exchanges]
      exact hattempt.except_ok (.done _)
    · rw [hv] at hattempt
      rw [he]
      exact hattempt.except_error
  | lost a h hm _ ih =>
    have hattempt := h.transcript
    rcases verdict_cases a.ending with ⟨_, hv⟩ | ⟨hm', _⟩
    · rw [hv] at hattempt
      exact hattempt.except_ok ih
    · exact absurd hm hm'

/-- With no value attached, what is asked to send a batch is what attempts ask that follow each other as they should. -/
theorem transcript_sendCheckpointed_iff {r : Relayer} {calls : List ControllerCall} (hv : r.settings.callValue = 0)
    {tr : List Exchange} {res : Except Error String} : Transcript (r.sendCheckpointed calls).run tr res ↔
      ∃ as, Retries r calls attempts as res ∧ tr = as.flatMap AttemptRecord.exchanges := by
  simp only [sendCheckpointed, hv, ne_eq, not_true_eq_false, if_false]
  constructor
  · exact transcript_tryBatch
  · rintro ⟨as, h, rfl⟩
    exact h.transcript

/-! ## How many attempts there are, and how they end -/

/-- No attempt ends as if all attempts had been lost. -/
theorem Attempt.ending_ne_exhausted {r : Relayer} {calls : List ControllerCall} {tr : List Exchange}
    {ending : Except Error String} (h : Attempt r calls tr ending) (n : Nat) :
    ending ≠ .error (.checkpointExhausted n) := by
  cases h with
  | found p receipt n outcome =>
    unfold settled
    split <;> nofun
  | _ => nofun

/-- What stands somewhere in the exchanges of several attempts stands in one of them. -/
theorem split_exchanges {as : List AttemptRecord} {front back : List Exchange} {x : Exchange}
    (h : as.flatMap AttemptRecord.exchanges = front ++ x :: back) :
    ∃ earlier a later own rest, as = earlier ++ a :: later ∧ a.exchanges = own ++ x :: rest ∧
      front = earlier.flatMap AttemptRecord.exchanges ++ own ∧
      back = rest ++ later.flatMap AttemptRecord.exchanges := by
  induction as generalizing front with
  | nil => simp at h
  | cons a as ih =>
    rw [List.flatMap_cons] at h
    rcases List.append_eq_append_iff.mp h with ⟨own, rfl, htail⟩ | ⟨own, ha, htail⟩
    · obtain ⟨earlier, b, later, own', rest, rfl, hb, rfl, rfl⟩ := ih htail
      exact ⟨a :: earlier, b, later, own', rest, rfl, hb, by simp, rfl⟩
    · cases own with
      | nil =>
        have hnil : as.flatMap AttemptRecord.exchanges = [] ++ x :: back := htail.symm
        obtain ⟨earlier, b, later, own', rest, rfl, hb, hfront, rfl⟩ := ih hnil
        rw [List.append_nil] at ha
        refine ⟨a :: earlier, b, later, own', rest, rfl, hb, ?_, rfl⟩
        rw [List.flatMap_cons, List.append_assoc, ← hfront, ha, List.append_nil]
      | cons y own =>
        obtain ⟨rfl, rfl⟩ := List.cons.inj htail
        exact ⟨[], a, as, front, own, rfl, ha, rfl, rfl⟩

namespace Retries

variable {r : Relayer} {calls : List ControllerCall} {left : Nat} {as : List AttemptRecord} {res : Except Error String}

/-- Each of the retries is an attempt. -/
theorem attempt (h : Retries r calls left as res) : ∀ a ∈ as, Attempt r calls a.exchanges a.ending := by
  induction h with
  | spent => intro a ha; nomatch ha
  | settled a h _ =>
    intro b hb
    rwa [List.mem_singleton.mp hb]
  | lost a h _ _ ih =>
    intro b hb
    rcases List.mem_cons.mp hb with rfl | hb
    · exact h
    · exact ih b hb

/-- There are no more attempts than were left. -/
theorem length_le (h : Retries r calls left as res) : as.length ≤ left := by
  induction h with
  | spent => exact Nat.le_refl 0
  | settled a _ _ => exact Nat.succ_le_succ (Nat.zero_le _)
  | lost a _ _ _ ih => exact Nat.succ_le_succ ih

/-- There is an attempt, if any were left. -/
theorem length_pos (h : Retries r calls left as res) (hl : 0 < left) : 0 < as.length := by
  cases h with
  | spent => exact absurd hl (Nat.lt_irrefl 0)
  | settled a _ _ => exact Nat.succ_pos 0
  | lost a _ _ _ => exact Nat.succ_pos _

/-- Another attempt follows exactly when there is one left and the last one lost. -/
theorem next_iff (h : Retries r calls left as res) (i : Nat) (hi : i < as.length) :
    i + 1 < as.length ↔ i + 1 < left ∧ TipMismatch as[i].ending := by
  induction h generalizing i with
  | spent => nomatch hi
  | settled a _ hm =>
    obtain rfl : i = 0 := by simpa using hi
    simp [hm]
  | @lost left a later res _ hm hl ih =>
    cases i with
    | zero =>
      have hpos := hl.length_pos
      have hle := hl.length_le
      simp only [List.length_cons, List.getElem_cons_zero, hm, and_true]
      omega
    | succ i =>
      have hi' : i < later.length := Nat.lt_of_succ_lt_succ hi
      simp only [List.length_cons, List.getElem_cons_succ]
      rw [Nat.add_lt_add_iff_right, Nat.add_lt_add_iff_right]
      exact ih i hi'

/-- The end of the last attempt is the result, unless it lost. -/
theorem result_of_getLast (h : Retries r calls left as res) (a : AttemptRecord) (ha : as.getLast? = some a)
    (hm : ¬TipMismatch a.ending) : res = a.ending := by
  induction h with
  | spent => nomatch ha
  | settled b _ _ =>
    obtain rfl : b = a := Option.some.inj ha
    rfl
  | @lost left b later res _ hb hl ih =>
    cases later with
    | nil => exact absurd (Option.some.inj ha ▸ hb) hm
    | cons c later => exact ih (by rwa [List.getLast?_cons_cons] at ha)

/-- The result says that all attempts were lost exactly when they were. -/
theorem exhausted_iff (h : Retries r calls left as res) :
    res = .error (.checkpointExhausted attempts) ↔ as.length = left ∧ ∀ a ∈ as, TipMismatch a.ending := by
  induction h with
  | spent => simp
  | settled a h hm =>
    constructor
    · intro he
      exact absurd he (h.ending_ne_exhausted _)
    · rintro ⟨_, hall⟩
      exact absurd (hall a (List.mem_singleton_self a)) hm
  | lost a _ hm _ ih =>
    rw [ih]
    simp [hm]

end Retries

/-- What an operation does that sends the batch `calls`: the transcript `tr` and the result `res` are those of the
attempts `as`. -/
structure Course (r : Relayer) (calls : List ControllerCall) (tr : List Exchange) (res : Except Error String)
    (as : List AttemptRecord) : Prop where
  /-- There is an attempt, and there are three at most. -/
  count : 1 ≤ as.length ∧ as.length ≤ 3
  /-- Nothing is asked but what the attempts ask, one after the other. -/
  asked : tr = as.flatMap AttemptRecord.exchanges
  attempt : ∀ a ∈ as, Attempt r calls a.exchanges a.ending
  /-- Each attempt broadcasts once at most, and looks up outcomes as often as allowed at most. -/
  bounded : ∀ a ∈ as, (sent a.exchanges).length ≤ 1 ∧ (lookedUp a.exchanges).length ≤ r.settings.lookups.toNat
  /-- Only what has been prepared from the answers of the same attempt is broadcast, and nothing else is looked up. -/
  prepared : ∀ a ∈ as, ∀ t ∈ sent a.exchanges, ∃ (p : r.Prepared calls) (answer : Except Report Receipt),
    p.sent = t ∧ p.exchanges answer <+: a.exchanges ∧ ∀ txid ∈ lookedUp a.exchanges, txid = p.txid
  /-- Another attempt follows exactly after one of the first two that lost. -/
  again : ∀ i (hi : i < as.length), i + 1 < as.length ↔ i + 1 < 3 ∧ TipMismatch as[i].ending
  /-- Any other end is the end of the operation. -/
  final : ∀ a, as.getLast? = some a → ¬TipMismatch a.ending → res = a.ending
  exhausted : res = .error (.checkpointExhausted 3) ↔ as.length = 3 ∧ ∀ a ∈ as, TipMismatch a.ending

/-- Retries with all attempts left are a course of the sending. -/
theorem Retries.course {r : Relayer} {calls : List ControllerCall} {as : List AttemptRecord} {res : Except Error String}
    (h : Retries r calls attempts as res) : Course r calls (as.flatMap AttemptRecord.exchanges) res as where
  count := ⟨h.length_pos (by decide), h.length_le⟩
  asked := rfl
  attempt := h.attempt
  bounded := by
    intro a ha
    rcases (h.attempt a ha).broadcast_cases with ⟨hs, hl⟩ | ⟨p, answer, rest, n, htr, hs, hl, hn⟩
    · simp [hs, hl]
    · simp [htr, hs, hl, hn]
  prepared := by
    intro a ha t ht
    rcases (h.attempt a ha).broadcast_cases with ⟨hs, _⟩ | ⟨p, answer, rest, n, htr, hs, hl, _⟩
    · rw [hs] at ht
      nomatch ht
    · refine ⟨p, answer, ?_, htr ▸ List.prefix_append _ _, ?_⟩
      · rw [htr, sent_append, hs, sent_exchanges, List.append_nil] at ht
        exact (List.mem_singleton.mp ht).symm
      · rw [htr, lookedUp_append, hl, lookedUp_exchanges, List.nil_append]
        exact fun txid => List.eq_of_mem_replicate
  again := h.next_iff
  final := h.result_of_getLast
  exhausted := h.exhausted_iff

/-- Whoever answers the questions of an operation, it sends the batch `calls` in a course of attempts. -/
def SendsInAttempts (r : Relayer) (calls : List ControllerCall) (operation : RelayM String) : Prop :=
  ∀ (σ : Type) (answer : σ → (q : Query) → q.Answer × σ) (s : σ),
    ∃ as, Course r calls (operation.run.play answer s).2.1 (operation.run.play answer s).1 as

/-- A checkpointed sending without call value is made of attempts. -/
theorem sendCheckpointed_sendsInAttempts {r : Relayer} (h : r.settings.callValue = 0) (calls : List ControllerCall) :
    SendsInAttempts r calls (r.sendCheckpointed calls) := by
  intro σ answer s
  obtain ⟨as, hr, htr⟩ := (transcript_sendCheckpointed_iff h).mp (transcript_play answer s _)
  rw [htr]
  exact ⟨as, hr.course⟩

/-- With no value attached, sending a batch of calls and asserting the tip take one to three attempts each, whatever is
answered. -/
theorem send_course (r : Relayer) (h : r.settings.callValue = 0) (calls : List ControllerCall) :
    (calls ≠ [] → SendsInAttempts r calls (r.sendBatch calls)) ∧ SendsInAttempts r [] r.assertTip := by
  refine ⟨fun hne => ?_, sendCheckpointed_sendsInAttempts h []⟩
  have hsend : r.sendBatch calls = r.sendCheckpointed calls := by
    simp only [sendBatch, hne, if_false]
  rw [hsend]
  exact sendCheckpointed_sendsInAttempts h calls

/-- A relayer with the smallest key, three lookups to a transaction and no value attached. -/
def sampleRelayer : Relayer :=
  ⟨Node.sampleSigner, ⟨Octets.ofNat 20 17⟩, ⟨Node.sampleSettings, 0⟩⟩

/-- The batch of one rebalancing is sent so. -/
theorem send_course_of_sample :
    SendsInAttempts sampleRelayer [.rebalanceUsdt sampleRelayer.controller Uint256.one]
      (sampleRelayer.sendBatch [.rebalanceUsdt sampleRelayer.controller Uint256.one]) :=
  (send_course sampleRelayer rfl [.rebalanceUsdt sampleRelayer.controller Uint256.one]).1 (List.cons_ne_nil _ _)

end CheckpointRelay.Relayer
