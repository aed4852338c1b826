import CheckpointRelay.Dialogue

/-!
# Transcripts of dialogues

A transcript is whole when every question of a dialogue has been answered, in whatever way. Whoever plays a dialogue
leaves a whole transcript of it (`transcript_play`), and the whole transcripts of a sequence of dialogues are those of
the first followed by those of the second (`transcript_bind_iff`). Statements about every outside are therefore
statements about whole transcripts.
-/

namespace CheckpointRelay.Dialogue

variable {Q : Type} {A : Q → Type} {α β ε σ : Type}

/-- `Transcript d exchanges a`: some outside answers the questions of `d` as `exchanges` says, and the result is `a`. -/
inductive Transcript : Dialogue Q A α → List (Exchange Q A) → α → Prop
  /-- Nothing is asked for a result. -/
  | done (a : α) : Transcript (.done a) [] a
  /-- A question is answered before all that follows. -/
  | ask {q : Q} {next : A q → Dialogue Q A α} {answer : A q} {exchanges : List (Exchange Q A)} {a : α}
      (h : Transcript (next answer) exchanges a) : Transcript (.ask q next) (⟨q, answer⟩ :: exchanges) a

/-- Whoever answers the questions leaves a whole transcript. -/
theorem transcript_play (answer : σ → (q : Q) → A q × σ) (s : σ) (d : Dialogue Q A α) :
    Transcript d (d.play answer s).2.1 (d.play answer s).1 := by
  induction d generalizing s with
  | done a => exact .done a
  | ask q next ih => exact .ask (ih (answer s q).1 (answer s q).2)

/-- Every question is answered as whoever answers does in some state. -/
theorem answer_of_mem_play {answer : σ → (q : Q) → A q × σ} {s : σ} {d : Dialogue Q A α} :
    ∀ x ∈ (d.play answer s).2.1, ∃ s', x.2 = (answer s' x.1).1 := by
  induction d generalizing s with
  | done a => nofun
  | ask q next ih =>
    intro x hx
    rcases List.mem_cons.mp hx with rfl | hx
    · exact ⟨s, rfl⟩
    · exact ih _ x hx

/-- A dialogue that is done asks nothing. -/
@[simp] theorem transcript_done_iff {a b : α} {tr : List (Exchange Q A)} :
    Transcript (.done a : Dialogue Q A α) tr b ↔ tr = [] ∧ b = a := by
  constructor
  · rintro ⟨⟩
    exact ⟨rfl, rfl⟩
  · rintro ⟨rfl, rfl⟩
    exact .done b

/-- A transcript of a question is the question with some answer, then a transcript of what follows that answer. -/
theorem transcript_ask_iff {q : Q} {next : A q → Dialogue Q A α} {tr : List (Exchange Q A)} {a : α} :
    Transcript (.ask q next) tr a ↔ ∃ answer rest, tr = ⟨q, answer⟩ :: rest ∧ Transcript (next answer) rest a := by
  constructor
  · rintro ⟨⟩
    exact ⟨_, _, rfl, ‹_›⟩
  · rintro ⟨answer, rest, rfl, h⟩
    exact .ask h

/-- The transcript of one question is that exchange. -/
theorem transcript_question_iff {q : Q} {tr : List (Exchange Q A)} {answer : A q} :
    Transcript (question q) tr answer ↔ tr = [⟨q, answer⟩] := by
  simp only [question, transcript_ask_iff, transcript_done_iff]
  constructor
  · rintro ⟨_, _, rfl, rfl, rfl⟩
    rfl
  · rintro rfl
    exact ⟨answer, [], rfl, rfl, rfl⟩

/-- What is asked in one dialogue after the other: first the questions of the first, then those of the second. -/
theorem transcript_bind_iff {d : Dialogue Q A α} {f : α → Dialogue Q A β} {tr : List (Exchange Q A)} {b : β} :
    Transcript (d.bind f) tr b ↔
      ∃ front a back, tr = front ++ back ∧ Transcript d front a ∧ Transcript (f a) back b := by
  induction d generalizing tr with
  | done a =>
    constructor
    · intro h
      exact ⟨[], a, tr, rfl, .done a, h⟩
    · rintro ⟨front, _, back, rfl, h, hb⟩
      obtain ⟨rfl, rfl⟩ := transcript_done_iff.mp h
      exact hb
  | ask q next ih =>
    constructor
    · intro h
      obtain ⟨answer, rest, rfl, hr⟩ := transcript_ask_iff.mp h
      obtain ⟨front, a, back, rfl, ha, hb⟩ := (ih answer).mp hr
      exact ⟨⟨q, answer⟩ :: front, a, back, rfl, .ask ha, hb⟩
    · rintro ⟨front, a, back, rfl, ha, hb⟩
      obtain ⟨answer, rest, rfl, hr⟩ := transcript_ask_iff.mp ha
      exact .ask ((ih answer).mpr ⟨rest, a, back, rfl, hr, hb⟩)

/-! ## Dialogues that can fail -/

/-- Returning a value asks nothing. -/
theorem transcript_pure_iff {a : α} {tr : List (Exchange Q A)} {r : Except ε α} :
    Transcript (pure a : ExceptT ε (Dialogue Q A) α).run tr r ↔ tr = [] ∧ r = .ok a :=
  transcript_done_iff

/-- Failing asks nothing. -/
theorem transcript_throw_iff {e : ε} {tr : List (Exchange Q A)} {r : Except ε α} :
    Transcript (throw e : ExceptT ε (Dialogue Q A) α).run tr r ↔ tr = [] ∧ r = .error e :=
  transcript_done_iff

/-- A sequence that can fail stops after the first dialogue, or goes on with its result. -/
theorem transcript_except_bind {x : ExceptT ε (Dialogue Q A) α} {f : α → ExceptT ε (Dialogue Q A) β}
    {tr : List (Exchange Q A)} {r : Except ε β} (h : Transcript (x >>= f).run tr r) :
    (∃ e, Transcript x.run tr (.error e) ∧ r = .error e) ∨
      ∃ front a back, tr = front ++ back ∧ Transcript x.run front (.ok a) ∧ Transcript (f a).run back r := by
  obtain ⟨front, c, back, rfl, hx, hc⟩ := transcript_bind_iff.mp h
  cases c with
  | error e =>
    obtain ⟨rfl, rfl⟩ := transcript_done_iff.mp hc
    rw [List.append_nil]
    exact Or.inl ⟨e, hx, rfl⟩
  | ok a => exact Or.inr ⟨front, a, back, rfl, hx, hc⟩

/-- Behind a part that succeeds, the transcript of what follows is appended. -/
theorem Transcript.except_ok {x : ExceptT ε (Dialogue Q A) α} {f : α → ExceptT ε (Dialogue Q A) β}
    {front back : List (Exchange Q A)} {a : α} {r : Except ε β} (hx : Transcript x.run front (.ok a))
    (hf : Transcript (f a).run back r) :
    Transcript (x >>= f).run (front ++ back) r :=
  transcript_bind_iff.mpr ⟨front, .ok a, back, rfl, hx, hf⟩

/-- Behind a part that fails, nothing more is asked. -/
theorem Transcript.except_error {x : ExceptT ε (Dialogue Q A) α} {f : α → ExceptT ε (Dialogue Q A) β}
    {tr : List (Exchange Q A)} {e : ε} (hx : Transcript x.run tr (.error e)) : Transcript (x >>= f).run tr (.error e) :=
  transcript_bind_iff.mpr ⟨tr, .error e, [], (List.append_nil tr).symm, hx, .done _⟩

/-- Another account of a failure asks nothing else. -/
theorem transcript_adapt {ε' : Type} {f : ε → ε'} {x : ExceptT ε (Dialogue Q A) α} {tr : List (Exchange Q A)}
    {r : Except ε' α} (h : Transcript (x.adapt f).run tr r) : ∃ r', Transcript x.run tr r' := by
  obtain ⟨front, r', back, rfl, hx, hdone⟩ := transcript_bind_iff.mp h
  obtain ⟨rfl, -⟩ := transcript_done_iff.mp hdone
  rw [List.append_nil]
  exact ⟨r', hx⟩

/-- Another account of a failure leaves what succeeds as it is. -/
theorem transcript_adapt_iff {ε' : Type} {f : ε → ε'} {x : ExceptT ε (Dialogue Q A) α} {tr : List (Exchange Q A)}
    {a : α} :
    Transcript (x.adapt f).run tr (.ok a) ↔ Transcript x.run tr (.ok a) := by
  constructor
  · intro h
    obtain ⟨front, r, back, rfl, hx, hdone⟩ := transcript_bind_iff.mp h
    obtain ⟨rfl, hr⟩ := transcript_done_iff.mp hdone
    cases r with
    | error e => nomatch hr
    | ok b =>
      obtain rfl := Except.ok.inj hr
      rwa [List.append_nil]
  · intro h
    exact transcript_bind_iff.mpr ⟨tr, .ok a, [], (List.append_nil tr).symm, h, .done _⟩

/-- Another account of a failure is of the same failure. -/
theorem exists_of_transcript_adapt_error {ε' : Type} {f : ε → ε'} {x : ExceptT ε (Dialogue Q A) α}
    {tr : List (Exchange Q A)} {e' : ε'} (h : Transcript (x.adapt f).run tr (.error e')) :
    ∃ e, e' = f e ∧ Transcript x.run tr (.error e) := by
  obtain ⟨front, r, back, rfl, hx, hdone⟩ := transcript_bind_iff.mp h
  obtain ⟨rfl, hr⟩ := transcript_done_iff.mp hdone
  cases r with
  | ok a => nomatch hr
  | error e =>
    obtain rfl := Except.error.inj hr
    rw [List.append_nil]
    exact ⟨e, rfl, hx⟩

end CheckpointRelay.Dialogue
