import CheckpointRelay.Proofs.Dialogue.Transcript
import CheckpointRelay.Proofs.Plan.Remembered

/-!
# What a step of planning asks and leaves

Whoever answers the questions of planning, and however: `Yields` says what a step that comes out has asked, with its
answers, and which caches it leaves. A sequence of steps is taken apart by `yields_bind_iff`, and there is one lemma for
each read: it is made and remembered, or it was remembered and is not made.
-/

namespace CheckpointRelay.Plan

/-- A question of planning with its answer. -/
abbrev Exchange := Dialogue.Exchange Read Read.Answer

/-- From the caches, the step asks what the transcript says and comes out with a result and the caches after it. -/
def Yields {α : Type} (caches : Caches) (step : PlanM α) (tr : List Exchange) (a : α) (after : Caches) : Prop :=
  Dialogue.Transcript (step.run caches).run tr (.ok (a, after))

section

variable {α β : Type} {caches after : Caches} {tr : List Exchange}

/-- Two steps in sequence come out exactly when the first does and then the second, on parts of the transcript. -/
theorem yields_bind_iff {step : PlanM α} {next : α → PlanM β} {b : β} : Yields caches (step >>= next) tr b after ↔
    ∃ front a middle back,
      tr = front ++ back ∧ Yields caches step front a middle ∧ Yields middle (next a) back b after := by
  constructor
  · intro h
    rcases Dialogue.transcript_except_bind h with ⟨_, _, he⟩ | ⟨front, ⟨a, middle⟩, back, htr, hstep, hnext⟩
    · nomatch he
    · exact ⟨front, a, middle, back, htr, hstep, hnext⟩
  · rintro ⟨front, a, middle, back, rfl, hstep, hnext⟩
    exact Dialogue.Transcript.except_ok hstep hnext

/-- Returning a value asks nothing and leaves the caches. -/
theorem yields_pure_iff {a b : α} : Yields caches (pure a) tr b after ↔ tr = [] ∧ b = a ∧ after = caches :=
  Dialogue.transcript_done_iff.trans (by rw [Except.ok.injEq, Prod.mk.injEq])

/-- Failing does not come out. -/
theorem not_yields_throw {cause : Cause} {a : α} : ¬Yields caches (throw cause) tr a after := by
  intro h
  nomatch (Dialogue.transcript_done_iff.mp h).2

/-- Looking at the caches asks nothing and leaves them. -/
theorem yields_get_iff {read : Caches} : Yields caches get tr read after ↔ tr = [] ∧ read = caches ∧ after = caches :=
  Dialogue.transcript_done_iff.trans (by rw [Except.ok.injEq, Prod.mk.injEq])

/-- Changing the caches asks nothing. -/
theorem yields_modify_iff {f : Caches → Caches} {a : Unit} :
    Yields caches (modify f) tr a after ↔ tr = [] ∧ after = f caches :=
  Dialogue.transcript_done_iff.trans (by rw [Except.ok.injEq, Prod.mk.injEq, and_iff_right (Subsingleton.elim a ())])

/-- A question comes out as its answer. -/
theorem yields_ask_iff {q : Read} {answer : q.Answer} :
    Yields caches (ask q) tr answer after ↔ tr = [⟨q, answer⟩] ∧ after = caches := by
  unfold Yields
  constructor
  · intro h
    obtain ⟨front, a, back, rfl, hq, hdone⟩ := Dialogue.transcript_bind_iff.mp h
    obtain ⟨rfl, hr⟩ := Dialogue.transcript_done_iff.mp hdone
    obtain ⟨rfl, rfl⟩ := Prod.mk.inj (Except.ok.inj hr)
    exact ⟨by rw [List.append_nil, Dialogue.transcript_question_iff.mp hq], rfl⟩
  · rintro ⟨rfl, rfl⟩
    exact Dialogue.transcript_bind_iff.mpr ⟨_, answer, [], rfl, Dialogue.transcript_question_iff.mpr rfl, .done _⟩

/-- Taking an answer comes out exactly when it is no error. -/
theorem yields_ofAnswer_iff {told : Report → Cause} {answer : Except Report α} {a : α} :
    Yields caches (ofAnswer told answer) tr a after ↔ tr = [] ∧ answer = .ok a ∧ after = caches := by
  cases answer with
  | ok b => exact yields_pure_iff.trans (by rw [Except.ok.injEq, eq_comm (a := a)])
  | error e => exact ⟨fun h => absurd h not_yields_throw, nofun⟩

/-- Decoding comes out exactly when it succeeds. -/
theorem yields_ofDecoded_iff {told : Abi.DecodeError → Cause} {decoded : Except Abi.DecodeError α} {a : α} :
    Yields caches (ofDecoded told decoded) tr a after ↔ tr = [] ∧ decoded = .ok a ∧ after = caches := by
  cases decoded with
  | ok b => exact yields_pure_iff.trans (by rw [Except.ok.injEq, eq_comm (a := a)])
  | error e => exact ⟨fun h => absurd h not_yields_throw, nofun⟩

/-- A step that is refused under a condition comes out only if the condition fails. -/
theorem yields_unless_iff {p : Prop} [Decidable p] {cause : Cause} {next : Unit → PlanM α} {a : α} :
    Yields caches (if p then throw cause >>= next else next ()) tr a after ↔
      ¬p ∧ Yields caches (next ()) tr a after := by
  by_cases hp : p
  · rw [if_pos hp]
    refine ⟨fun h => ?_, fun h => absurd hp h.1⟩
    obtain ⟨_, _, _, _, _, hthrow, _⟩ := yields_bind_iff.mp h
    exact absurd hthrow not_yields_throw
  · rw [if_neg hp]
    exact (and_iff_right hp).symm

/-- A write to the caches under a condition comes before the rest. -/
theorem yields_modify_if {p : Prop} [Decidable p] {f : Caches → Caches} {next : Unit → PlanM α} {a : α}
    (h : Yields caches (if p then modify f >>= next else next ()) tr a after) :
    ∃ written, written = (if p then f caches else caches) ∧ Yields written (next ()) tr a after := by
  by_cases hp : p
  · rw [if_pos hp] at h
    obtain ⟨front, _, _, back, rfl, hmodify, hnext⟩ := yields_bind_iff.mp h
    obtain ⟨rfl, rfl⟩ := yields_modify_iff.mp hmodify
    exact ⟨_, (if_pos hp).symm, hnext⟩
  · rw [if_neg hp] at h
    exact ⟨_, (if_neg hp).symm, h⟩

/-! ## Reads -/

/-- Reading a contract asks one question, and comes out with the data. -/
theorem yields_readContract_iff {a : Address} {calldata data : Bytes} {told : Report → Cause} :
    Yields caches (readContract a calldata told) tr data after ↔
      tr = [⟨.contract a calldata, .ok data⟩] ∧ after = caches := by
  unfold readContract
  constructor
  · intro h
    obtain ⟨front, answer, middle, back, rfl, hask, hanswer⟩ := yields_bind_iff.mp h
    obtain ⟨rfl, rfl⟩ := yields_ask_iff.mp hask
    obtain ⟨rfl, rfl, rfl⟩ := yields_ofAnswer_iff.mp hanswer
    exact ⟨rfl, rfl⟩
  · rintro ⟨rfl, rfl⟩
    exact yields_bind_iff.mpr ⟨_, _, _, [], rfl, yields_ask_iff.mpr ⟨rfl, rfl⟩, yields_ofAnswer_iff.mpr ⟨rfl, rfl, rfl⟩⟩

/-- Reading a number asks one question, and comes out with the number at the front of the data. -/
theorem yields_readNumber_iff {a : Address} {calldata : Bytes} {x : Uint256} :
    Yields caches (readNumber a calldata) tr x after ↔
    ∃ data, tr = [⟨.contract a calldata, .ok data⟩] ∧ Abi.uint256Of data 0 = .ok x ∧ after = caches := by
  unfold readNumber
  constructor
  · intro h
    obtain ⟨front, data, middle, back, rfl, hread, hdecoded⟩ := yields_bind_iff.mp h
    obtain ⟨rfl, rfl⟩ := yields_readContract_iff.mp hread
    obtain ⟨rfl, hx, rfl⟩ := yields_ofDecoded_iff.mp hdecoded
    exact ⟨data, rfl, hx, rfl⟩
  · rintro ⟨data, rfl, hx, rfl⟩
    exact yields_bind_iff.mpr
      ⟨_, data, _, [], rfl, yields_readContract_iff.mpr ⟨rfl, rfl⟩, yields_ofDecoded_iff.mpr ⟨rfl, hx, rfl⟩⟩

/-! ## Reads through the caches -/

/-- A step that starts by looking at the caches. -/
theorem yields_get_bind {next : Caches → PlanM β} {b : β} (h : Yields caches (get >>= next) tr b after) :
    Yields caches (next caches) tr b after := by
  obtain ⟨front, read, middle, back, rfl, hget, hnext⟩ := yields_bind_iff.mp h
  obtain ⟨rfl, rfl, rfl⟩ := yields_get_iff.mp hget
  exact hnext

/-- What is read is remembered. -/
theorem yields_remember (remember : α → Caches → Caches) {read : PlanM α} {a : α}
    (h : Yields caches (do let b ← read; modify (remember b); pure b) tr a after) :
    ∃ middle, Yields caches read tr a middle ∧ after = remember a middle := by
  obtain ⟨front, b, middle, back, rfl, hread, hwrite⟩ := yields_bind_iff.mp h
  obtain ⟨wrote, _, later, back, rfl, hmodify, hpure⟩ := yields_bind_iff.mp hwrite
  obtain ⟨rfl, rfl⟩ := yields_modify_iff.mp hmodify
  obtain ⟨rfl, rfl, rfl⟩ := yields_pure_iff.mp hpure
  exact ⟨middle, by rwa [List.append_nil, List.append_nil], rfl⟩

/-- A rate comes out of the caches, or is asked for and kept. -/
theorem yields_rateOf {controller token : Address} {rate : Uint256}
    (h : Yields caches (rateOf controller token) tr rate after) :
    (caches.rates.lookup token = some rate ∧ tr = [] ∧ after = caches) ∨
    ∃ data, caches.rates.lookup token = none ∧
      tr = [⟨.contract controller (addressReadCall Signature.lpExchangeRateFor token), .ok data⟩] ∧
      Abi.uint256Of data 0 = .ok rate ∧ after = { caches with rates := (token, rate) :: caches.rates } := by
  have hstep := yields_get_bind h
  cases hfound : caches.rates.lookup token with
  | some found =>
    rw [hfound] at hstep
    obtain ⟨rfl, rfl, rfl⟩ := yields_pure_iff.mp hstep
    exact Or.inl ⟨rfl, rfl, rfl⟩
  | none =>
    rw [hfound] at hstep
    obtain ⟨middle, hread, rfl⟩ :=
      yields_remember (fun rate caches => { caches with rates := (token, rate) :: caches.rates }) hstep
    obtain ⟨data, rfl, hrate, rfl⟩ := yields_readNumber_iff.mp hread
    exact Or.inr ⟨data, rfl, rfl, hrate, rfl⟩

/-- A balance comes out of the caches, or is asked for and kept. -/
theorem yields_balanceOf {token account : Address} {balance : Uint256}
    (h : Yields caches (balanceOf token account) tr balance after) :
    (caches.balances.lookup (token, account) = some balance ∧ tr = [] ∧ after = caches) ∨
    ∃ data, caches.balances.lookup (token, account) = none ∧
      tr = [⟨.contract token (addressReadCall Signature.balanceOf account), .ok data⟩] ∧
      Abi.uint256Of data 0 = .ok balance ∧
      after = { caches with balances := ((token, account), balance) :: caches.balances } := by
  have hstep := yields_get_bind h
  cases hfound : caches.balances.lookup (token, account) with
  | some found =>
    rw [hfound] at hstep
    obtain ⟨rfl, rfl, rfl⟩ := yields_pure_iff.mp hstep
    exact Or.inl ⟨rfl, rfl, rfl⟩
  | none =>
    rw [hfound] at hstep
    obtain ⟨middle, hread, rfl⟩ := yields_remember
      (fun balance caches => { caches with balances := ((token, account), balance) :: caches.balances }) hstep
    obtain ⟨data, rfl, hbalance, rfl⟩ := yields_readNumber_iff.mp hread
    exact Or.inr ⟨data, rfl, rfl, hbalance, rfl⟩

/-- Whether a contract is there comes out of the caches, or is asked and kept. -/
theorem yields_isDeployed {a : Address} {deployed : Bool} (h : Yields caches (isDeployed a) tr deployed after) :
    (caches.deployed.lookup a = some deployed ∧ tr = [] ∧ after = caches) ∨
    (caches.deployed.lookup a = none ∧ tr = [⟨.deployed a, .ok deployed⟩] ∧
      after = { caches with deployed := (a, deployed) :: caches.deployed }) := by
  have hstep := yields_get_bind h
  cases hfound : caches.deployed.lookup a with
  | some found =>
    rw [hfound] at hstep
    obtain ⟨rfl, rfl, rfl⟩ := yields_pure_iff.mp hstep
    exact Or.inl ⟨rfl, rfl, rfl⟩
  | none =>
    rw [hfound] at hstep
    -- the question and its answer are one read, as for the other caches
    have hbind : Yields caches (do
        let b ← ask (.deployed a) >>= ofAnswer .read
        modify fun caches => { caches with deployed := (a, b) :: caches.deployed }
        pure b) tr deployed after := hstep
    obtain ⟨middle, hread, rfl⟩ :=
      yields_remember (fun deployed caches => { caches with deployed := (a, deployed) :: caches.deployed }) hbind
    obtain ⟨front, answer, _, back, rfl, hask, hanswer⟩ := yields_bind_iff.mp hread
    obtain ⟨rfl, rfl⟩ := yields_ask_iff.mp hask
    obtain ⟨rfl, rfl, rfl⟩ := yields_ofAnswer_iff.mp hanswer
    exact Or.inr ⟨rfl, rfl, rfl⟩

/-- The receiver of a salt comes out of the caches only. -/
theorem yields_receiverOf {salt : Word} {receiver : Address} (h : Yields caches (receiverOf salt) tr receiver after) :
    caches.receivers.lookup salt = some receiver ∧ tr = [] ∧ after = caches := by
  have hstep := yields_get_bind h
  cases hfound : caches.receivers.lookup salt with
  | some found =>
    rw [hfound] at hstep
    obtain ⟨rfl, rfl, rfl⟩ := yields_pure_iff.mp hstep
    exact ⟨rfl, rfl, rfl⟩
  | none =>
    rw [hfound] at hstep
    exact absurd hstep not_yields_throw

/-- The receivers of pending salts are asked for in one batch, and the answer has one address for each. -/
theorem yields_predictReceivers {controller : Address} {salts : List Word} {a : Unit}
    (h : Yields caches (predictReceivers controller salts) tr a after) :
    (pendingSalts caches salts = [] ∧ tr = [] ∧ after = caches) ∨
    ∃ raw results receivers, tr = [⟨.contract controller (predictionCall (pendingSalts caches salts)), .ok raw⟩] ∧
      Abi.bytesArrayOf raw 0 = .ok results ∧ results.length = (pendingSalts caches salts).length ∧
      results.mapM (Abi.addressOf · 0) = .ok receivers ∧
      after = { caches with receivers := ((pendingSalts caches salts).zip receivers).reverse ++ caches.receivers } := by
  have hstep := yields_get_bind h
  generalize pendingSalts caches salts = pending at hstep ⊢
  dsimp only at hstep
  by_cases hpending : pending = []
  · rw [if_pos hpending] at hstep
    obtain ⟨rfl, -, rfl⟩ := yields_pure_iff.mp hstep
    exact Or.inl ⟨hpending, rfl, rfl⟩
  · rw [if_neg hpending] at hstep
    obtain ⟨front, raw, _, back, rfl, hread, hanswered⟩ := yields_bind_iff.mp hstep
    obtain ⟨rfl, rfl⟩ := yields_readContract_iff.mp hread
    obtain ⟨front, results, _, back, rfl, hfirst, hsplit⟩ := yields_bind_iff.mp hanswered
    obtain ⟨rfl, hresults, rfl⟩ := yields_ofDecoded_iff.mp hfirst
    obtain ⟨hcount, hcounted⟩ := yields_unless_iff.mp hsplit
    obtain ⟨front, receivers, _, back, rfl, hsecond, hmodify⟩ := yields_bind_iff.mp hcounted
    obtain ⟨rfl, hreceivers, rfl⟩ := yields_ofDecoded_iff.mp hsecond
    obtain ⟨rfl, rfl⟩ := yields_modify_iff.mp hmodify
    exact Or.inr ⟨raw, results, receivers, rfl, hresults, Decidable.not_not.mp hcount, hreceivers, rfl⟩

end

end CheckpointRelay.Plan
