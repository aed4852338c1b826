import CheckpointRelay.Proofs.Controller.Batch
import CheckpointRelay.Proofs.Relay.Attempt
import Mathlib.Logic.Function.Basic
import Mathlib.Logic.Relation

/-!
# Operations against a ledger

A ledger executes accepted transactions, each name at most once, at any moment after the broadcast or never. An
execution succeeds only if the tip that it makes is the one asserted by the last call of its batch. Between any two
questions, and after the last one, other writers move the tip. What an operation has been told about outcomes is what
the ledger has on record, for good (`Step.recorded`).
-/

namespace CheckpointRelay

/-! ## What a ledger sees of a transaction -/

/-- The name of a transaction, which one without raw data has not. -/
def Transaction.txid? (t : Transaction) : Option String :=
  t.raw.map RawTransaction.txid

/-- The block that a transaction runs against. -/
def Transaction.block? (t : Transaction) : Option BlockRef := do
  (← t.raw).blockRef.toOption

/-- The tip that the last call in a transaction's batch asserts. -/
def Transaction.assertedTip? (t : Transaction) : Option Tip := do
  let batch ← (Multicall.decode (← t.call.toOption).data).toOption
  CheckpointRelay.assertedTip? (← batch.getLast?)

/-- The block that a transaction refers to is the one in its raw part. -/
theorem Transaction.block?_eq {t : Transaction} {raw : RawTransaction} {block : BlockRef} (hraw : t.raw = some raw)
    (hblock : raw.blockRef = .ok block) : t.block? = some block := by
  simp only [block?, hraw, Option.bind_eq_bind, Option.bind_some, hblock, Except.toOption]

/-- The tip that a transaction asserts is the one in the last call of its batch. -/
theorem Transaction.assertedTip?_eq {t : Transaction} {call : TriggerCall} {batch : List Bytes} {last : Bytes}
    (hcall : t.call = .ok call) (hbatch : Multicall.decode call.data = .ok (batch ++ [last])) :
    t.assertedTip? = CheckpointRelay.assertedTip? last := by
  simp only [Transaction.assertedTip?, hcall, Except.toOption, Option.bind_eq_bind, Option.bind_some, hbatch,
    List.getLast?_concat]

/-! ## Ledgers -/

/-- An execution of a transaction: the tip that it meets, the events that the controller emits in it, and its
outcome. -/
structure Execution where
  transaction : Transaction
  before : Tip
  emitted : List Event
  outcome : Outcome
  /-- It succeeds only if the events take the tip to the one that is asserted. -/
  checked : outcome.isFailed = false →
    ∃ block, transaction.block? = some block ∧ transaction.assertedTip? = some (EventChain.fold block before emitted)

/-- The tip after an execution: a failed one leaves it alone. -/
def Execution.after (e : Execution) : Tip :=
  if e.outcome.isFailed then e.before else e.transaction.assertedTip?.getD e.before

/-- The state of a ledger as far as a controller is concerned. -/
structure Ledger where
  tip : Tip
  /-- The transactions that may be executed, now or later. -/
  accepted : List Transaction
  /-- The execution under a name, of which there is one at most. -/
  record : String → Option Execution
  recorded : ∀ name e, record name = some e → e.transaction ∈ accepted ∧ e.transaction.txid? = some name

namespace Ledger

/-- Whether the transaction of a name has been executed and has not failed. -/
def committed (L : Ledger) (name : String) : Bool :=
  (L.record name).any fun e => !e.outcome.isFailed

/-- Whether a transaction's name is that of a committed one. -/
def hasCommitted (L : Ledger) (t : Transaction) : Bool :=
  t.txid?.any L.committed

/-- Whether a transaction of this name has been accepted. -/
def Knows (L : Ledger) (name : String) : Prop :=
  ∃ t ∈ L.accepted, t.txid? = some name

/-- The ledger once another transaction has been accepted. -/
def accept (L : Ledger) (t : Transaction) : Ledger where
  tip := L.tip
  accepted := t :: L.accepted
  record := L.record
  recorded name e h := ⟨List.mem_cons_of_mem t (L.recorded name e h).1, (L.recorded name e h).2⟩

/-- The ledger after the execution of an accepted transaction. -/
def execute (L : Ledger) (name : String) (e : Execution) (ha : e.transaction ∈ L.accepted)
    (hn : e.transaction.txid? = some name) :
    Ledger where
  tip := e.after
  accepted := L.accepted
  record := Function.update L.record name (some e)
  recorded other e' h := by
    by_cases hname : other = name
    · subst hname
      rw [Function.update_self] at h
      rw [← Option.some.inj h]
      exact ⟨ha, hn⟩
    · rw [Function.update_of_ne hname] at h
      exact L.recorded other e' h

/-- What can happen to a ledger without a question being asked. -/
inductive Drift (L : Ledger) : Ledger → Prop
  /-- Another writer moves the tip. -/
  | write (tip : Tip) : Drift L { L with tip := tip }
  /-- An accepted transaction, whose name has no execution yet, is executed at the tip of the moment. -/
  | execute (name : String) (e : Execution) (ha : e.transaction ∈ L.accepted) (hn : e.transaction.txid? = some name)
      (hfresh : L.record name = none) (htip : e.before = L.tip) : Drift L (L.execute name e ha hn)

/-- How a ledger answers a question, and what it is afterwards. Reads, plans and builds are answered in any way, and
every answer can get lost. -/
inductive Answers (L : Ledger) : (q : Relayer.Query) → q.Answer → Ledger → Prop
  | constant (call : TriggerCall) (answer : Except Report Bytes) : Answers L (.node (.constant call)) answer L
  | deployed (a : Address) (answer : Except Report Bool) : Answers L (.node (.deployed a)) answer L
  | build (call : TriggerCall) (feeLimit : Int64) (answer : Except Report Transaction) :
      Answers L (.node (.build call feeLimit)) answer L
  | plan (controller : Address) (calls : List ControllerCall) (answer : Except Report (List Event)) :
    Answers L (.plan controller calls) answer L
  /-- A broadcast transaction is accepted. -/
  | accepted (t : Transaction) (message : String) : Answers L (.node (.broadcast t)) (.ok ⟨true, message⟩) (L.accept t)
  /-- It is refused, and not executed for having been broadcast. -/
  | refused (t : Transaction) (message : String) : Answers L (.node (.broadcast t)) (.ok ⟨false, message⟩) L
  /-- It has not arrived. -/
  | undelivered (t : Transaction) (cause : Report) : Answers L (.node (.broadcast t)) (.error cause) L
  /-- It is accepted, and the answer is lost. -/
  | unheard (t : Transaction) (cause : Report) : Answers L (.node (.broadcast t)) (.error cause) (L.accept t)
  /-- A lookup fails. -/
  | unknown (name : String) (pause : Nat) (cause : Report) : Answers L (.node (.outcome name pause)) (.error cause) L
  /-- A lookup finds nothing, be there something on record or not yet. -/
  | pending (name : String) (pause : Nat) : Answers L (.node (.outcome name pause)) (.ok none) L
  /-- A lookup finds what is on record. -/
  | found (name : String) (pause : Nat) (e : Execution) (h : L.record name = some e) :
    Answers L (.node (.outcome name pause)) (.ok (some e.outcome)) L

/-- One ledger has on record all that another one has. -/
def Extends (L' L : Ledger) : Prop :=
  ∀ name e, L.record name = some e → L'.record name = some e

/-- A ledger that others have written to extends what it was. -/
theorem Drift.extends {L L' : Ledger} (h : Drift L L') : L'.Extends L := by
  intro name e hr
  cases h with
  | write tip => exact hr
  | execute other e' ha hn hfresh htip =>
    have hne : name ≠ other := by
      rintro rfl
      rw [hfresh] at hr
      nomatch hr
    exact (Function.update_of_ne hne _ _).trans hr

/-- What others write does not change what was accepted from here. -/
theorem Drift.accepted_eq {L L' : Ledger} (h : Drift L L') : L'.accepted = L.accepted := by
  cases h <;> rfl

/-- Answering does not change what is recorded. -/
theorem Answers.record_eq {L L' : Ledger} {q : Relayer.Query} {answer : q.Answer} (h : Answers L q answer L') :
    L'.record = L.record := by
  cases h <;> rfl

end Ledger

namespace Relayer

open Dialogue

/-- How far an operation and the ledger have come: what is still to be done, the ledger, and what has been asked. -/
structure Situation where
  doing : Dialogue Query Query.Answer (Except Error String)
  ledger : Ledger
  asked : List Exchange

/-- The ledger changes by itself, or the next question is answered. -/
inductive Step : Situation → Situation → Prop
  | drift {doing : Dialogue Query Query.Answer (Except Error String)} {L L' : Ledger} {asked : List Exchange}
      (h : L.Drift L') :
      Step ⟨doing, L, asked⟩ ⟨doing, L', asked⟩
  | answer {q : Query} {next : q.Answer → Dialogue Query Query.Answer (Except Error String)} {L L' : Ledger}
      {asked : List Exchange} {answer : q.Answer} (h : L.Answers q answer L') :
      Step ⟨.ask q next, L, asked⟩ ⟨next answer, L', asked ++ [⟨q, answer⟩]⟩

/-- An operation that begins with a ledger comes to a situation, in any number of steps. -/
def Reaches (operation : RelayM String) (L : Ledger) (s : Situation) : Prop :=
  Relation.ReflTransGen Step ⟨operation.run, L, []⟩ s

/-! ## What every step preserves -/

/-- What has been found by lookups is on record. -/
def Agrees (L : Ledger) (asked : List Exchange) : Prop :=
  ∀ name pause outcome, (⟨.node (.outcome name pause), .ok (some outcome)⟩ : Exchange) ∈ asked →
    ∃ e, L.record name = some e ∧ e.outcome = outcome

/-- Whether the answer to a broadcast is a refusal. -/
def Refused : Except Report Receipt → Prop
  | .ok receipt => receipt.accepted = false
  | .error _ => False

/-- Only what was accepted before, or has been broadcast and not been refused, is accepted. -/
def AcceptsOnly (before L : Ledger) (asked : List Exchange) : Prop :=
  ∀ t ∈ L.accepted, t ∈ before.accepted ∨
    ∃ answer : Except Report Receipt, broadcastExchange t answer ∈ asked ∧ ¬Refused answer

/-- A ledger goes on agreeing with earlier answers while it is extended. -/
theorem Agrees.extends {L L' : Ledger} {asked : List Exchange} (h : Agrees L asked) (he : L'.Extends L) :
    Agrees L' asked := by
  intro name pause outcome hx
  obtain ⟨e, hr, ho⟩ := h name pause outcome hx
  exact ⟨e, he name e hr, ho⟩

/-- What lookups have found stays on record in every step, and what they find is on record. -/
theorem Step.recorded {s s' : Situation} (h : Step s s') (ha : Agrees s.ledger s.asked) :
    Agrees s'.ledger s'.asked := by
  cases h with
  | drift hd => exact ha.extends hd.extends
  | @answer q next L L' asked answer hq =>
    have hrecord := hq.record_eq
    have ha' : Agrees L' asked := ha.extends fun name e hr => hrecord ▸ hr
    intro name pause outcome hx
    rcases List.mem_append.mp hx with hx | hx
    · exact ha' name pause outcome hx
    · cases List.mem_singleton.mp hx
      cases hq with
      | found _ _ e hr => exact ⟨e, hr, rfl⟩

/-- In every step, what is newly accepted has been broadcast. -/
theorem Step.accepted {before : Ledger} {s s' : Situation} (h : Step s s') (ha : AcceptsOnly before s.ledger s.asked) :
    AcceptsOnly before s'.ledger s'.asked := by
  -- drift accepts nothing; of the answers only those to a broadcast do, and they are in the transcript
  cases h with
  | drift hd =>
    intro t ht
    exact ha t (hd.accepted_eq ▸ ht)
  | @answer q next L L' asked answer hq =>
    have hold : AcceptsOnly before L (asked ++ [⟨q, answer⟩]) := by
      intro t ht
      rcases ha t ht with hb | ⟨answer', hx, hn⟩
      · exact Or.inl hb
      · exact Or.inr ⟨answer', List.mem_append_left _ hx, hn⟩
    have hnew : ∀ (t : Transaction) (answer' : Except Report Receipt),
        (⟨q, answer⟩ : Exchange) = broadcastExchange t answer' →
        ¬Refused answer' → AcceptsOnly before (L.accept t) (asked ++ [⟨q, answer⟩]) := by
      intro t answer' hx hn u hu
      rcases List.mem_cons.mp hu with rfl | hu
      · exact Or.inr ⟨answer', List.mem_append_right _ (hx ▸ List.mem_singleton_self _), hn⟩
      · exact hold u hu
    cases hq with
    | accepted t message => exact hnew t (.ok ⟨true, message⟩) rfl nofun
    | unheard t cause => exact hnew t (.error cause) rfl id
    | _ => exact hold

/-- Whatever is answered to what is still to be done, the whole transcript begins with what has been asked. -/
def Continues (whole : Dialogue Query Query.Answer (Except Error String)) (s : Situation) : Prop :=
  ∀ rest res, Transcript s.doing rest res → Transcript whole (s.asked ++ rest) res

/-- A step of a run leaves it a run of the same operation. -/
theorem Step.continues {whole : Dialogue Query Query.Answer (Except Error String)} {s s' : Situation} (h : Step s s')
    (hw : Continues whole s) : Continues whole s' := by
  cases h with
  | drift _ => exact hw
  | answer _ =>
    intro rest res hr
    rw [List.append_assoc]
    exact hw _ res (.ask hr)

/-! ## What holds in every situation that is reached -/

namespace Reaches

variable {operation : RelayM String} {L : Ledger} {s : Situation}

/-- Along a run, the ledger agrees with every answer it has given. -/
theorem recorded (h : Reaches operation L s) : Agrees s.ledger s.asked := by
  induction h with
  | refl => nofun
  | tail _ step ih => exact step.recorded ih

/-- Along a run, only what was sent is accepted. -/
theorem accepted (h : Reaches operation L s) : AcceptsOnly L s.ledger s.asked := by
  induction h with
  | refl => exact fun t ht => Or.inl ht
  | tail _ step ih => exact step.accepted ih

/-- What is reached is a run of the operation. -/
theorem continues (h : Reaches operation L s) : Continues operation.run s := by
  induction h with
  | refl => exact fun rest res hr => hr
  | tail _ step ih => exact step.continues ih

end Reaches

/-- The answer that tells nothing. -/
def noAnswer : (q : Query) → q.Answer
  | .node _ => .error ⟨"", []⟩
  | .plan _ _ => .error ⟨"", []⟩

/-- Every operation can come to an end without anything being told, so what has been asked up to any situation starts a
whole transcript whose lookups find nothing more. -/
theorem Reaches.transcript {operation : RelayM String} {L : Ledger} {s : Situation} (h : Reaches operation L s) :
    ∃ rest res, Transcript operation.run (s.asked ++ rest) res ∧ Agrees s.ledger (s.asked ++ rest) ∧
      ∀ res', s.doing = .done res' → rest = [] ∧ res = res' := by
  let last := s.doing.play (fun (_ : Unit) q => (noAnswer q, ())) ()
  have hlast : Transcript s.doing last.2.1 last.1 := transcript_play _ () _
  refine ⟨last.2.1, last.1, h.continues _ _ hlast, ?_, ?_⟩
  · intro name pause outcome hx
    rcases List.mem_append.mp hx with hx | hx
    · exact h.recorded name pause outcome hx
    · obtain ⟨_, hno⟩ := answer_of_mem_play _ hx
      nomatch hno
  · intro res' hdone
    rw [hdone] at hlast
    exact transcript_done_iff.mp hlast

end Relayer

end CheckpointRelay
