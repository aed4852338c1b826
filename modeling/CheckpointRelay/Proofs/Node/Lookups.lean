import CheckpointRelay.Node.Confirm
import CheckpointRelay.Proofs.Dialogue.Transcript

/-!
# The lookups of a transaction

The outcome of a transaction is looked up until a lookup does not come back empty, or as often as allowed. `Lookups` has
every such series with what comes of it: what is asked while waiting is one of them (`lookups_of_transcript`), and each
of them can be had (`transcript_of_lookups`).
-/

namespace CheckpointRelay.Node

open Dialogue

/-- A question to a node with its answer. -/
abbrev Exchange := Dialogue.Exchange Query Query.Answer

/-- One question to the node, whose failure to answer is a failure of the whole. -/
theorem transcript_answered {q : Query} {tr : List Exchange} {r : Except Failure q.Content}
    (h : Transcript (NodeM.answered (question q)).run tr r) :
    ∃ answer : q.Answer, tr = [⟨q, answer⟩] ∧ r = answer.mapError .node := by
  obtain ⟨front, answer, back, rfl, hq, hb⟩ := transcript_bind_iff.mp h
  obtain ⟨rfl, rfl⟩ := transcript_done_iff.mp hb
  rw [transcript_question_iff.mp hq]
  exact ⟨answer, rfl, rfl⟩

/-! ## Series of lookups -/

/-- The lookup of number `n`, counted from zero, in a series whose first lookup waits for `first` and every other one
for `pause`. -/
def lookupExchange (txid : String) (first pause n : Nat) (answer : Except Report (Option Outcome)) : Exchange :=
  ⟨.outcome txid (if n = 0 then first else pause), answer⟩

/-- The first `n` lookups of such a series, none of which finds an outcome. -/
def emptyLookups (txid : String) (first pause n : Nat) : List Exchange :=
  (List.range n).map fun i => lookupExchange txid first pause i (.ok none)

/-- From the second lookup on, a series goes on as one that waits for `pause` from its beginning. -/
theorem lookupExchange_succ (txid : String) (first pause n : Nat) (answer : Except Report (Option Outcome)) :
    lookupExchange txid first pause (n + 1) answer = lookupExchange txid pause pause n answer := by
  simp [lookupExchange]

/-- Lookups in vain are a first one, and then those of a series that waits for `pause` from its beginning. -/
theorem emptyLookups_succ (txid : String) (first pause n : Nat) :
    emptyLookups txid first pause (n + 1) =
      lookupExchange txid first pause 0 (.ok none) :: emptyLookups txid pause pause n := by
  simp only [emptyLookups, List.range_succ_eq_map, List.map_cons, List.map_map, Function.comp_def, lookupExchange_succ]

/-- The lookups of a transaction, and what comes of them. The first that does not come back empty decides. -/
inductive Lookups (settings : ConfirmSettings) (txid : String) : List Exchange → Except Failure String → Prop
  /-- A lookup fails. -/
  | unanswered (n : Nat) (hn : n < settings.lookups.toNat) (cause : Report) :
    Lookups settings txid
      (emptyLookups txid 0 settings.pause.toNat n ++ [lookupExchange txid 0 settings.pause.toNat n (.error cause)])
      (.error (.node cause))
  /-- A lookup finds that the transaction has failed. -/
  | failed (n : Nat) (hn : n < settings.lookups.toNat) (found : Outcome) (h : found.isFailed = true) :
    Lookups settings txid
      (emptyLookups txid 0 settings.pause.toNat n ++ [lookupExchange txid 0 settings.pause.toNat n (.ok (some found))])
      (.error (.executionFailed txid found.describe))
  /-- A lookup finds that the transaction has succeeded. -/
  | succeeded (n : Nat) (hn : n < settings.lookups.toNat) (found : Outcome) (h : found.isFailed = false) :
    Lookups settings txid
      (emptyLookups txid 0 settings.pause.toNat n ++ [lookupExchange txid 0 settings.pause.toNat n (.ok (some found))])
      (.ok txid)
  /-- All lookups come back empty. -/
  | unconfirmed :
    Lookups settings txid (emptyLookups txid 0 settings.pause.toNat settings.lookups.toNat)
      (.error (.unconfirmed txid settings.lookups.toNat))

/-! ## What is asked -/

section

variable {settings : ConfirmSettings} {txid : String} {tr : List Exchange} {total pause first : Nat}

/-- The lookups of a transaction go on while none finds an outcome, and end with the first that does, with a failed one,
or when there have been as many as allowed. -/
theorem transcript_await {left : Nat} {res : Except Failure Unit}
    (h : Transcript (await txid total pause first left).run tr res) :
    (tr = emptyLookups txid first pause left ∧ res = .error (.unconfirmed txid total)) ∨
    ∃ n < left,
      (∃ cause, tr = emptyLookups txid first pause n ++ [lookupExchange txid first pause n (.error cause)] ∧
        res = .error (.node cause)) ∨
      ∃ found : Outcome,
        tr = emptyLookups txid first pause n ++ [lookupExchange txid first pause n (.ok (some found))] ∧
        res = if found.isFailed then .error (.executionFailed txid found.describe) else .ok () := by
  -- on the lookups left: each that finds nothing is the first of a series that is one longer
  induction left generalizing first tr with
  | zero =>
    obtain ⟨rfl, rfl⟩ := transcript_throw_iff.mp h
    exact Or.inl ⟨rfl, rfl⟩
  | succ left ih =>
    rcases transcript_except_bind h with ⟨e, hq, rfl⟩ | ⟨front, answer, back, rfl, hq, hb⟩
    · obtain ⟨answer, rfl, hr⟩ := transcript_answered hq
      cases answer with
      | ok found => nomatch hr
      | error cause =>
        obtain rfl : e = .node cause := Except.error.inj hr
        exact Or.inr ⟨0, Nat.succ_pos left, Or.inl ⟨cause, rfl, rfl⟩⟩
    · obtain ⟨answer', rfl, hr⟩ := transcript_answered hq
      cases answer' with
      | error cause => nomatch hr
      | ok found =>
        obtain rfl : answer = found := Except.ok.inj hr
        cases answer with
        | none =>
          rcases ih hb with ⟨rfl, rfl⟩ | ⟨n, hn, ⟨cause, rfl, rfl⟩ | ⟨found, rfl, rfl⟩⟩
          · exact Or.inl ⟨(emptyLookups_succ txid first pause left).symm, rfl⟩
          · refine Or.inr ⟨n + 1, Nat.succ_lt_succ hn, Or.inl ⟨cause, ?_, rfl⟩⟩
            rw [emptyLookups_succ, lookupExchange_succ]
            rfl
          · refine Or.inr ⟨n + 1, Nat.succ_lt_succ hn, Or.inr ⟨found, ?_, rfl⟩⟩
            rw [emptyLookups_succ, lookupExchange_succ]
            rfl
        | some found =>
          refine Or.inr ⟨0, Nat.succ_pos left, Or.inr ⟨found, ?_⟩⟩
          by_cases hf : found.isFailed = true
          · simp only [hf, if_true] at hb ⊢
            obtain ⟨rfl, rfl⟩ := transcript_throw_iff.mp hb
            exact ⟨rfl, rfl⟩
          · simp only [hf, Bool.false_eq_true, if_false] at hb ⊢
            obtain ⟨rfl, rfl⟩ := transcript_pure_iff.mp hb
            exact ⟨rfl, rfl⟩

/-- What is asked while waiting is one of the series of lookups. -/
theorem lookups_of_transcript {c : Except Failure Unit} (h : Transcript (waitFor settings txid).run tr c) :
    Lookups settings txid tr (c.map fun _ => txid) := by
  rcases transcript_await h with ⟨rfl, rfl⟩ | ⟨n, hn, ⟨cause, rfl, rfl⟩ | ⟨found, rfl, rfl⟩⟩
  · exact .unconfirmed
  · exact .unanswered n hn cause
  · cases hfailed : found.isFailed with
    | true => exact .failed n hn found hfailed
    | false => exact .succeeded n hn found hfailed

/-! ## What can be answered -/

/-- Lookups that find nothing go before any others. -/
theorem await_transcript {n more : Nat} {res : Except Failure Unit}
    (h : Transcript (await txid total pause (if n = 0 then first else pause) more).run tr res) :
    Transcript (await txid total pause first (n + more)).run (emptyLookups txid first pause n ++ tr) res := by
  induction n generalizing first with
  | zero => simpa [emptyLookups] using h
  | succ n ih =>
    rw [emptyLookups_succ, Nat.add_right_comm]
    refine .ask (ih ?_)
    simpa using h

/-- A lookup that is answered after `n` empty ones. -/
theorem transcript_lookup {n : Nat} (hn : n < settings.lookups.toNat) {answer : Except Report (Option Outcome)}
    {c : Except Failure Unit}
    (h : ∀ left, Transcript (await txid settings.lookups.toNat settings.pause.toNat
        (if n = 0 then 0 else settings.pause.toNat) (left + 1)).run
      [lookupExchange txid 0 settings.pause.toNat n answer] c) :
    Transcript (waitFor settings txid).run
      (emptyLookups txid 0 settings.pause.toNat n ++ [lookupExchange txid 0 settings.pause.toNat n answer]) c := by
  obtain ⟨left, hleft⟩ := Nat.exists_eq_add_of_lt hn
  have hwait := await_transcript (h left)
  have htotal : n + (left + 1) = settings.lookups.toNat := hleft.symm
  rwa [htotal] at hwait

/-- Every series of lookups can be had. -/
theorem transcript_of_lookups {res : Except Failure String} (h : Lookups settings txid tr res) :
    ∃ c, Transcript (waitFor settings txid).run tr c ∧ res = c.map fun _ => txid := by
  cases h with
  | unanswered n hn cause =>
    exact ⟨.error (.node cause), transcript_lookup hn fun left => .ask (.done _), rfl⟩
  | failed n hn found hfailed =>
    refine ⟨.error (.executionFailed txid found.describe), transcript_lookup hn fun left => .ask ?_, rfl⟩
    show Transcript (ExceptT.run
      (if found.isFailed then throw (Failure.executionFailed txid found.describe) else pure ())) _ _
    rw [hfailed]
    exact .done _
  | succeeded n hn found hfailed =>
    refine ⟨.ok (), transcript_lookup hn fun left => .ask ?_, rfl⟩
    show Transcript (ExceptT.run
      (if found.isFailed then throw (Failure.executionFailed txid found.describe) else pure ())) _ _
    rw [hfailed]
    exact .done _
  | unconfirmed =>
    have hwait : Transcript (await txid settings.lookups.toNat settings.pause.toNat 0 (settings.lookups.toNat + 0)).run
        (emptyLookups txid 0 settings.pause.toNat settings.lookups.toNat ++ [])
        (.error (.unconfirmed txid settings.lookups.toNat)) :=
      await_transcript (.done _)
    rw [List.append_nil] at hwait
    exact ⟨.error (.unconfirmed txid settings.lookups.toNat), hwait, rfl⟩

/-- Two series that end alike end with the same answer. -/
theorem answer_of_last {front front' : List Exchange} {n : Nat} {answer answer' : Except Report (Option Outcome)}
    (h : front ++ [⟨.outcome txid pause, answer⟩] = front' ++ [lookupExchange txid first total n answer']) :
    answer = answer' := by
  have hlookup := (List.cons.inj (List.append_inj' h rfl).2).1
  cases hlookup
  rfl

/-- The wait for a transaction ends with the first outcome that is found. -/
theorem transcript_waitFor_found {front : List Exchange} {found : Outcome} {c : Except Failure Unit}
    (h : Transcript (waitFor settings txid).run (front ++ [⟨.outcome txid pause, .ok (some found)⟩]) c) :
    c = if found.isFailed then .error (.executionFailed txid found.describe) else .ok () := by
  rcases transcript_await h with ⟨htr, rfl⟩ | ⟨n, _, ⟨cause, htr, rfl⟩ | ⟨found', htr, rfl⟩⟩
  · cases hlookups : settings.lookups.toNat with
    | zero =>
      rw [hlookups] at htr
      exact absurd htr (List.append_ne_nil_of_right_ne_nil _ (List.cons_ne_nil _ _))
    | succ n =>
      rw [hlookups, emptyLookups, List.range_succ, List.map_append] at htr
      nomatch answer_of_last htr
  · nomatch answer_of_last htr
  · cases answer_of_last htr
    rfl

end

end CheckpointRelay.Node
