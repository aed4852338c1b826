import CheckpointRelay.Proofs.Plan.Learned

/-!
# What stops a step of planning

The other half of `Yields`: `Stops` says what a step that fails has asked, with its answers, and why it fails. A
sequence of steps fails where its first failing step does (`stops_bind`), and there is one lemma for each step. What has
been read, decoded or computed can stop planning, and so can a sweep of no receivers; no step is stopped for want of a
receiver once the receivers of its salts are known.
-/

namespace CheckpointRelay.Plan

/-- From the caches, the step asks what the transcript says and fails. -/
def Stops {α : Type} (caches : Caches) (step : PlanM α) (tr : List Exchange) (cause : Cause) : Prop :=
  Dialogue.Transcript (step.run caches).run tr (.error cause)

/-- Why a plan may fail: anything but that a salt has no receiver. -/
def Cause.Foreseen (cause : Cause) : Prop :=
  ∀ salt, cause ≠ .noReceiver salt

section

variable {α β : Type} {caches after : Caches} {tr : List Exchange} {cause : Cause}

/-- Two steps in sequence fail where the first does, or behind it where the second does. -/
theorem stops_bind {step : PlanM α} {next : α → PlanM β} (h : Stops caches (step >>= next) tr cause) :
    Stops caches step tr cause ∨
      ∃ front a middle back,
        tr = front ++ back ∧ Yields caches step front a middle ∧ Stops middle (next a) back cause := by
  rcases Dialogue.transcript_except_bind h with ⟨_, hstep, he⟩ | ⟨front, ⟨a, middle⟩, back, htr, hstep, hnext⟩
  · obtain rfl := Except.error.inj he
    exact Or.inl hstep
  · exact Or.inr ⟨front, a, middle, back, htr, hstep, hnext⟩

/-- Returning a value does not fail. -/
theorem not_stops_pure {a : α} : ¬Stops caches (pure a) tr cause := by
  intro h
  nomatch (Dialogue.transcript_done_iff.mp h).2

/-- Changing the caches does not fail. -/
theorem not_stops_modify {f : Caches → Caches} : ¬Stops caches (modify f) tr cause := by
  intro h
  nomatch (Dialogue.transcript_done_iff.mp h).2

/-- Asking does not fail; the answer may be an error. -/
theorem not_stops_ask {q : Read} : ¬Stops caches (ask q) tr cause := by
  intro h
  obtain ⟨front, a, back, rfl, hq, hdone⟩ := Dialogue.transcript_bind_iff.mp h
  nomatch (Dialogue.transcript_done_iff.mp hdone).2

/-- Failing asks nothing and gives its cause. -/
theorem stops_throw {thrown : Cause} (h : Stops caches (throw thrown : PlanM α) tr cause) :
    tr = [] ∧ cause = thrown := by
  obtain ⟨htr, he⟩ := Dialogue.transcript_done_iff.mp h
  exact ⟨htr, Except.error.inj he⟩

/-- Taking an answer fails with its error. -/
theorem stops_ofAnswer {told : Report → Cause} {answer : Except Report α}
    (h : Stops caches (ofAnswer told answer) tr cause) :
    ∃ e, answer = .error e ∧ tr = [] ∧ cause = told e := by
  cases answer with
  | ok a => exact absurd h not_stops_pure
  | error e => exact ⟨e, rfl, stops_throw h⟩

/-- Decoding fails with its error. -/
theorem stops_ofDecoded {told : Abi.DecodeError → Cause} {decoded : Except Abi.DecodeError α}
    (h : Stops caches (ofDecoded told decoded) tr cause) : ∃ e, decoded = .error e ∧ tr = [] ∧ cause = told e := by
  cases decoded with
  | ok a => exact absurd h not_stops_pure
  | error e => exact ⟨e, rfl, stops_throw h⟩

/-- A step that is refused under a condition fails for that or later. -/
theorem stops_unless {p : Prop} [Decidable p] {thrown : Cause} {next : Unit → PlanM α}
    (h : Stops caches (if p then throw thrown >>= next else next ()) tr cause) :
    (p ∧ tr = [] ∧ cause = thrown) ∨ (¬p ∧ Stops caches (next ()) tr cause) := by
  by_cases hp : p
  · rw [if_pos hp] at h
    rcases stops_bind h with hthrow | ⟨_, _, _, _, _, hthrow, _⟩
    · exact Or.inl ⟨hp, stops_throw hthrow⟩
    · exact absurd hthrow not_yields_throw
  · rw [if_neg hp] at h
    exact Or.inr ⟨hp, h⟩

/-- A write to the caches under a condition does not fail. -/
theorem stops_modify_if {p : Prop} [Decidable p] {f : Caches → Caches} {next : Unit → PlanM α}
    (h : Stops caches (if p then modify f >>= next else next ()) tr cause) :
    ∃ written, Stops written (next ()) tr cause := by
  by_cases hp : p
  · rw [if_pos hp] at h
    rcases stops_bind h with hmodify | ⟨front, _, _, back, rfl, hmodify, hnext⟩
    · exact absurd hmodify not_stops_modify
    · obtain ⟨rfl, rfl⟩ := yields_modify_iff.mp hmodify
      exact ⟨_, hnext⟩
  · rw [if_neg hp] at h
    exact ⟨_, h⟩

/-- A step that starts by looking at the caches. -/
theorem stops_get_bind {next : Caches → PlanM α} (h : Stops caches (get >>= next) tr cause) :
    Stops caches (next caches) tr cause := by
  rcases stops_bind h with hget | ⟨front, read, middle, back, rfl, hget, hnext⟩
  · nomatch (Dialogue.transcript_done_iff.mp hget).2
  · obtain ⟨rfl, rfl, rfl⟩ := yields_get_iff.mp hget
    exact hnext

/-! ## Reads -/

/-- Reading a contract fails when the answer is an error. -/
theorem stops_readContract {a : Address} {calldata : Bytes} {told : Report → Cause}
    (h : Stops caches (readContract a calldata told) tr cause) :
    ∃ e, tr = [⟨.contract a calldata, .error e⟩] ∧ cause = told e := by
  rcases stops_bind h with hask | ⟨front, answer, middle, back, rfl, hask, hanswer⟩
  · exact absurd hask not_stops_ask
  · obtain ⟨rfl, rfl⟩ := yields_ask_iff.mp hask
    obtain ⟨e, rfl, rfl, rfl⟩ := stops_ofAnswer hanswer
    exact ⟨e, rfl, rfl⟩

/-- Reading a contract fails for a foreseen cause. -/
theorem foreseen_readContract {a : Address} {calldata : Bytes} (h : Stops caches (readContract a calldata) tr cause) :
    cause.Foreseen := by
  obtain ⟨e, -, rfl⟩ := stops_readContract h
  nofun

/-- Reading a number fails for a foreseen cause. -/
theorem foreseen_readNumber {a : Address} {calldata : Bytes} (h : Stops caches (readNumber a calldata) tr cause) :
    cause.Foreseen := by
  rcases stops_bind h with hread | ⟨_, _, _, _, _, _, hdecoded⟩
  · exact foreseen_readContract hread
  · obtain ⟨e, -, -, rfl⟩ := stops_ofDecoded hdecoded
    nofun

/-- What is read and then remembered fails as its read does. -/
theorem stops_remember (remember : α → Caches → Caches) {read : PlanM α}
    (h : Stops caches (do let b ← read; modify (remember b); pure b) tr cause) : Stops caches read tr cause := by
  rcases stops_bind h with hread | ⟨_, _, _, _, _, _, hwrite⟩
  · exact hread
  rcases stops_bind hwrite with hmodify | ⟨_, _, _, _, _, _, hpure⟩
  · exact absurd hmodify not_stops_modify
  · exact absurd hpure not_stops_pure

/-- Looking a rate up fails for a foreseen cause. -/
theorem foreseen_rateOf {controller token : Address} (h : Stops caches (rateOf controller token) tr cause) :
    cause.Foreseen := by
  have hstep := stops_get_bind h
  cases hfound : caches.rates.lookup token with
  | some found =>
    rw [hfound] at hstep
    exact absurd hstep not_stops_pure
  | none =>
    rw [hfound] at hstep
    exact foreseen_readNumber
      (stops_remember (fun rate caches => { caches with rates := (token, rate) :: caches.rates }) hstep)

/-- Looking a balance up fails for a foreseen cause. -/
theorem foreseen_balanceOf {token account : Address} (h : Stops caches (balanceOf token account) tr cause) :
    cause.Foreseen := by
  have hstep := stops_get_bind h
  cases hfound : caches.balances.lookup (token, account) with
  | some found =>
    rw [hfound] at hstep
    exact absurd hstep not_stops_pure
  | none =>
    rw [hfound] at hstep
    exact foreseen_readNumber (stops_remember
      (fun balance caches => { caches with balances := ((token, account), balance) :: caches.balances }) hstep)

/-- Looking a contract up fails for a foreseen cause. -/
theorem foreseen_isDeployed {a : Address} (h : Stops caches (isDeployed a) tr cause) : cause.Foreseen := by
  have hstep := stops_get_bind h
  cases hfound : caches.deployed.lookup a with
  | some found =>
    rw [hfound] at hstep
    exact absurd hstep not_stops_pure
  | none =>
    rw [hfound] at hstep
    -- the question and its answer are one read, as for the other caches
    have hbind : Stops caches (do
        let b ← ask (.deployed a) >>= ofAnswer .read
        modify fun caches => { caches with deployed := (a, b) :: caches.deployed }
        pure b) tr cause := hstep
    rcases stops_bind (stops_remember
      (fun deployed caches => { caches with deployed := (a, deployed) :: caches.deployed }) hbind) with
      hask | ⟨_, _, _, _, _, _, hanswer⟩
    · exact absurd hask not_stops_ask
    · obtain ⟨e, -, -, rfl⟩ := stops_ofAnswer hanswer
      nofun

/-- The receiver of a salt is missing only if it is not known. -/
theorem not_stops_receiverOf {salt : Word} {receiver : Address}
    (hknown : caches.receivers.lookup salt = some receiver) :
    ¬Stops caches (receiverOf salt) tr cause := by
  intro h
  have hstep := stops_get_bind h
  rw [hknown] at hstep
  exact not_stops_pure hstep

end

end CheckpointRelay.Plan
