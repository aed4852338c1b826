import CheckpointRelay.Proofs.Node.Lookups
import CheckpointRelay.Proofs.Transaction.Steps

/-!
# The course of an attempt

What one attempt to send a batch asks, for every way in which it can end: the tip is read, the events are planned, a
transaction is built, made ready and broadcast, and its outcome is looked up. Each step is taken only after the one
before went well. An attempt broadcasts at most once, right behind what prepares the transaction
(`Attempt.broadcast_place`).
-/

namespace CheckpointRelay.Relayer

/-- A question of an operation with its answer. -/
abbrev Exchange := Dialogue.Exchange Query Query.Answer

/-- A question to the node, with its answer, as one of an operation. -/
def nodeExchange (x : Node.Exchange) : Exchange :=
  ⟨.node x.1, x.2⟩

/-! ## The exchanges of an attempt -/

/-- The tip of the controller is read. -/
def tipExchange (r : Relayer) (answer : Except Report Bytes) : Exchange :=
  ⟨.node (.constant (r.controllerCall (readCall Signature.eventChainTip))), answer⟩

/-- The events of the batch are planned. -/
def planExchange (r : Relayer) (calls : List ControllerCall) (answer : Except Report (List Event)) : Exchange :=
  ⟨.plan r.controller calls, answer⟩

/-- A transaction for the batch is built. -/
def buildExchange (r : Relayer) (calls : List ControllerCall) (answer : Except Report Transaction) : Exchange :=
  ⟨.node (.build (r.batchCall calls) r.settings.feeLimit), answer⟩

/-- A transaction is broadcast. -/
def broadcastExchange (sent : Transaction) (answer : Except Report Receipt) : Exchange :=
  ⟨.node (.broadcast sent), answer⟩

/-- The outcome of a transaction is looked up for the time `n`, counted from zero; there is a pause before every lookup
but the first. -/
def lookupExchange (r : Relayer) (txid : String) (n : Nat) (answer : Except Report (Option Outcome)) : Exchange :=
  nodeExchange (Node.lookupExchange txid 0 r.settings.pause.toNat n answer)

/-- The first `n` lookups, none of which finds an outcome. -/
def emptyLookups (r : Relayer) (txid : String) (n : Nat) : List Exchange :=
  (Node.emptyLookups txid 0 r.settings.pause.toNat n).map nodeExchange

/-- The transaction that is broadcast, with its name: the one that was built, with the assertion at the end of its
batch, with the fee limit and signed. -/
def ready (r : Relayer) (calls : List ControllerCall) (tip : Tip) (events : List Event) (built : Transaction) :
    Except Transaction.Error (Transaction × String) := do
  Node.prepare r.settings.toConfirmSettings r.signer (← withAssertion calls tip events built)

/-- A transaction is readied by asserting the chain behind the batch and then preparing it: fee ceiling, signature,
name. -/
theorem ready_eq_ok {r : Relayer} {calls : List ControllerCall} {tip : Tip} {events : List Event}
    {built sent : Transaction} {txid : String} :
    r.ready calls tip events built = .ok (sent, txid) ↔ ∃ t, withAssertion calls tip events built = .ok t ∧
      Node.prepare r.settings.toConfirmSettings r.signer t = .ok (sent, txid) :=
  Result.bind_eq_ok

/-- What an outcome makes of an attempt. -/
def settled (txid : String) (found : Outcome) : Except Error String :=
  if found.isFailed then .error (.failure (.executionFailed txid found.describe)) else .ok txid

/-- What has been read, planned and built in an attempt that comes to broadcast a transaction. -/
structure Prepared (r : Relayer) (calls : List ControllerCall) where
  /-- What the controller returned as its tip. -/
  raw : Bytes
  tip : Tip
  events : List Event
  /-- The transaction as the node built it. -/
  built : Transaction
  /-- The transaction that is broadcast. -/
  sent : Transaction
  /-- The name of that transaction. -/
  txid : String
  tip_eq : Abi.wordOf raw 0 = .ok tip
  ready_eq : r.ready calls tip events built = .ok (sent, txid)

/-- What is asked up to the broadcast, whose answer is given. -/
def Prepared.exchanges {r : Relayer} {calls : List ControllerCall} (p : r.Prepared calls)
    (answer : Except Report Receipt) :
    List Exchange :=
  [r.tipExchange (.ok p.raw), r.planExchange calls (.ok p.events), r.buildExchange calls (.ok p.built),
    broadcastExchange p.sent answer]

/-- An attempt to send a batch: what is asked, and how it ends. -/
inductive Attempt (r : Relayer) (calls : List ControllerCall) : List Exchange → Except Error String → Prop
  /-- The tip cannot be read. -/
  | tipUnread (cause : Report) : Attempt r calls [r.tipExchange (.error cause)] (.error (.failure (.node cause)))
  /-- What was read is no tip. -/
  | noTip (raw : Bytes) (cause : Abi.DecodeError) (h : Abi.wordOf raw 0 = .error cause) :
    Attempt r calls [r.tipExchange (.ok raw)] (.error (.read cause))
  /-- The events cannot be planned. -/
  | unplanned (raw : Bytes) (tip : Tip) (cause : Report) (h : Abi.wordOf raw 0 = .ok tip) :
    Attempt r calls [r.tipExchange (.ok raw), r.planExchange calls (.error cause)] (.error (.planning cause))
  /-- No transaction is built. -/
  | unbuilt (raw : Bytes) (tip : Tip) (events : List Event) (cause : Report) (h : Abi.wordOf raw 0 = .ok tip) :
    Attempt r calls [r.tipExchange (.ok raw), r.planExchange calls (.ok events), r.buildExchange calls (.error cause)]
      (.error (.failure (.node cause)))
  /-- The transaction that was built cannot be made ready. -/
  | unready (raw : Bytes) (tip : Tip) (events : List Event) (built : Transaction) (cause : Transaction.Error)
    (htip : Abi.wordOf raw 0 = .ok tip) (h : r.ready calls tip events built = .error cause) :
    Attempt r calls [r.tipExchange (.ok raw), r.planExchange calls (.ok events), r.buildExchange calls (.ok built)]
      (.error (.failure cause.toFailure))
  /-- The transaction may or may not have reached the node. -/
  | unsent (p : r.Prepared calls) (cause : Report) :
    Attempt r calls (p.exchanges (.error cause)) (.error (.failure (.node cause)))
  /-- The node refuses the transaction. -/
  | refused (p : r.Prepared calls) (receipt : Receipt) (h : receipt.accepted = false) :
    Attempt r calls (p.exchanges (.ok receipt)) (.error (.failure (Node.rejection receipt)))
  /-- There is no outcome in all lookups. -/
  | unconfirmed (p : r.Prepared calls) (receipt : Receipt) (h : receipt.accepted = true) :
    Attempt r calls (p.exchanges (.ok receipt) ++ r.emptyLookups p.txid r.settings.lookups.toNat)
      (.error (.failure (.unconfirmed p.txid r.settings.lookups.toNat)))
  /-- A lookup fails. -/
  | unanswered (p : r.Prepared calls) (receipt : Receipt) (n : Nat) (cause : Report) (h : receipt.accepted = true)
    (hn : n < r.settings.lookups.toNat) :
    Attempt r calls (p.exchanges (.ok receipt) ++
      (r.emptyLookups p.txid n ++ [r.lookupExchange p.txid n (.error cause)])) (.error (.failure (.node cause)))
  /-- A lookup finds the outcome. -/
  | found (p : r.Prepared calls) (receipt : Receipt) (n : Nat) (outcome : Outcome) (h : receipt.accepted = true)
    (hn : n < r.settings.lookups.toNat) :
    Attempt r calls (p.exchanges (.ok receipt) ++
      (r.emptyLookups p.txid n ++ [r.lookupExchange p.txid n (.ok (some outcome))])) (settled p.txid outcome)

/-! ## What is broadcast and looked up -/

/-- The transaction that an exchange broadcasts. -/
def Exchange.sent? : Exchange → Option Transaction
  | ⟨.node (.broadcast t), _⟩ => some t
  | _ => none

/-- The name that an exchange looks up. -/
def Exchange.lookedUp? : Exchange → Option String
  | ⟨.node (.outcome txid _), _⟩ => some txid
  | _ => none

/-- The transactions that are broadcast, in order. -/
def sent (tr : List Exchange) : List Transaction :=
  tr.filterMap Exchange.sent?

/-- The names that are looked up, in order. -/
def lookedUp (tr : List Exchange) : List String :=
  tr.filterMap Exchange.lookedUp?

/-- What is sent in two parts is sent in the whole, in order. -/
@[simp] theorem sent_append (tr tr' : List Exchange) : sent (tr ++ tr') = sent tr ++ sent tr' :=
  List.filterMap_append

/-- What is looked up in two parts is looked up in the whole, in order. -/
@[simp] theorem lookedUp_append (tr tr' : List Exchange) : lookedUp (tr ++ tr') = lookedUp tr ++ lookedUp tr' :=
  List.filterMap_append

/-- A prepared attempt sends its one transaction. -/
@[simp] theorem sent_exchanges {r : Relayer} {calls : List ControllerCall} (p : r.Prepared calls)
    (answer : Except Report Receipt) :
    sent (p.exchanges answer) = [p.sent] := rfl

/-- Until it has sent its transaction, an attempt looks nothing up. -/
@[simp] theorem lookedUp_exchanges {r : Relayer} {calls : List ControllerCall} (p : r.Prepared calls)
    (answer : Except Report Receipt) :
    lookedUp (p.exchanges answer) = [] := rfl

/-- A lookup sends nothing. -/
@[simp] theorem sent_lookupExchange (r : Relayer) (txid : String) (n : Nat) (answer : Except Report (Option Outcome)) :
    sent [r.lookupExchange txid n answer] = [] := rfl

/-- A lookup looks its transaction up. -/
@[simp] theorem lookedUp_lookupExchange (r : Relayer) (txid : String) (n : Nat)
    (answer : Except Report (Option Outcome)) :
    lookedUp [r.lookupExchange txid n answer] = [txid] := rfl

/-- Empty lookups send nothing. -/
@[simp] theorem sent_emptyLookups (r : Relayer) (txid : String) (n : Nat) : sent (r.emptyLookups txid n) = [] := by
  simp [sent, emptyLookups, Node.emptyLookups, Node.lookupExchange, nodeExchange, Exchange.sent?, List.filterMap_map,
    Function.comp_def]

/-- Empty lookups look the transaction up as often as they are. -/
@[simp] theorem lookedUp_emptyLookups (r : Relayer) (txid : String) (n : Nat) :
    lookedUp (r.emptyLookups txid n) = List.replicate n txid := by
  simp [lookedUp, emptyLookups, Node.emptyLookups, Node.lookupExchange, nodeExchange, Exchange.lookedUp?,
    List.filterMap_map, Function.comp_def, List.map_const']

/-- An attempt broadcasts nothing and looks nothing up, or it broadcasts the one transaction that it has prepared, and
afterwards looks up nothing but that transaction, as often as allowed at most. -/
theorem Attempt.broadcast_cases {r : Relayer} {calls : List ControllerCall} {tr : List Exchange}
    {ending : Except Error String} (h : Attempt r calls tr ending) :
    (sent tr = [] ∧ lookedUp tr = []) ∨
    ∃ (p : r.Prepared calls) (answer : Except Report Receipt) (rest : List Exchange) (n : Nat),
      tr = p.exchanges answer ++ rest ∧
      sent rest = [] ∧ lookedUp rest = List.replicate n p.txid ∧ n ≤ r.settings.lookups.toNat := by
  cases h with
  | tipUnread | noTip | unplanned | unbuilt | unready => exact Or.inl ⟨rfl, rfl⟩
  | unsent p cause => exact Or.inr ⟨p, _, [], 0, (List.append_nil _).symm, rfl, rfl, Nat.zero_le _⟩
  | refused p receipt => exact Or.inr ⟨p, _, [], 0, (List.append_nil _).symm, rfl, rfl, Nat.zero_le _⟩
  | unconfirmed p receipt => exact Or.inr ⟨p, _, _, _, rfl, by simp, by simp, Nat.le_refl _⟩
  | unanswered p receipt n cause _ hn =>
    exact Or.inr ⟨p, _, _, n + 1, rfl, by simp, by simp [List.replicate_succ'], hn⟩
  | found p receipt n outcome _ hn =>
    exact Or.inr ⟨p, _, _, n + 1, rfl, by simp, by simp [List.replicate_succ'], hn⟩

/-- An attempt begins with a read of the tip. -/
theorem Attempt.head {r : Relayer} {calls : List ControllerCall} {tr : List Exchange} {ending : Except Error String}
    (h : Attempt r calls tr ending) : ∃ answer rest, tr = r.tipExchange answer :: rest := by
  cases h <;> exact ⟨_, _, rfl⟩

/-- A broadcast of an attempt stands right behind the exchanges that prepare it, and is its only one. -/
theorem Attempt.broadcast_place {r : Relayer} {calls : List ControllerCall} {front back : List Exchange}
    {t : Transaction} {answer : Except Report Receipt} {ending : Except Error String}
    (h : Attempt r calls (front ++ broadcastExchange t answer :: back) ending) :
    ∃ p : r.Prepared calls, p.sent = t ∧
      front = [r.tipExchange (.ok p.raw), r.planExchange calls (.ok p.events), r.buildExchange calls (.ok p.built)] ∧
      sent back = [] ∧ ∀ txid ∈ lookedUp back, txid = p.txid := by
  rcases h.broadcast_cases with ⟨hs, _⟩ | ⟨p, answer', rest, n, htr, hs, hl, _⟩
  · rw [sent_append] at hs
    nomatch (List.append_eq_nil_iff.mp hs).2
  · -- the broadcast is the fourth exchange: no earlier one broadcasts, and no later one does
    simp only [Prepared.exchanges] at htr
    match front with
    | [] => nomatch (List.cons.inj htr).1
    | [_] => nomatch (List.cons.inj (List.cons.inj htr).2).1
    | [_, _] => nomatch (List.cons.inj (List.cons.inj (List.cons.inj htr).2).2).1
    | [x1, x2, x3] =>
      obtain ⟨h1, htr⟩ := List.cons.inj htr
      obtain ⟨h2, htr⟩ := List.cons.inj htr
      obtain ⟨h3, htr⟩ := List.cons.inj htr
      obtain ⟨hx, hback⟩ := List.cons.inj htr
      cases hx
      rw [h1, h2, h3, hback]
      exact ⟨p, rfl, rfl, hs, fun txid htxid => List.eq_of_mem_replicate (hl ▸ htxid)⟩
    | _ :: _ :: _ :: x :: front =>
      have hrest : rest = front ++ broadcastExchange t answer :: back :=
        (List.cons.inj (List.cons.inj (List.cons.inj (List.cons.inj htr).2).2).2).2.symm
      rw [hrest, sent_append] at hs
      nomatch (List.append_eq_nil_iff.mp hs).2

/-- Whether an attempt ended in the revert of its assertion. -/
def TipMismatch : Except Error String → Prop
  | .error (.failure cause) => isTipMismatch cause = true
  | _ => False

/-- What is made of the end of an attempt: only the revert of the assertion is not the end of the operation. -/
def verdict : Except Error String → Except Error AttemptEnd
  | .ok txid => .ok (.committed txid)
  | .error (.failure cause) => if isTipMismatch cause then .ok .tipMoved else .error (.failure cause)
  | .error e => .error e

/-- An attempt is followed by another one after a mismatch of its tip, and settles the operation otherwise. -/
theorem verdict_cases (ending : Except Error String) :
    (TipMismatch ending ∧ verdict ending = .ok .tipMoved) ∨
    (¬TipMismatch ending ∧ ((∃ txid, ending = .ok txid ∧ verdict ending = .ok (.committed txid)) ∨
      ∃ e, ending = .error e ∧ verdict ending = .error e)) := by
  cases ending with
  | ok txid => exact Or.inr ⟨id, Or.inl ⟨txid, rfl, rfl⟩⟩
  | error e =>
    cases e with
    | failure cause =>
      by_cases hm : isTipMismatch cause = true
      · exact Or.inl ⟨hm, if_pos hm⟩
      · exact Or.inr ⟨hm, Or.inr ⟨_, rfl, if_neg hm⟩⟩
    | _ => exact Or.inr ⟨id, Or.inr ⟨_, rfl, rfl⟩⟩

end CheckpointRelay.Relayer
