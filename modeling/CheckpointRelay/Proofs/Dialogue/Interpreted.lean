import CheckpointRelay.Proofs.Dialogue.Answered
import CheckpointRelay.Proofs.Dialogue.Transcript

/-!
# Dialogues put through others

When the questions of a dialogue are put through other dialogues, whoever answers these answers it as well. `Served`
says that its questions are answered so as a transcript says, one after the other. Then it comes to the result of the
transcript, and whoever answers to the state behind its last question (`Served.comesTo`).
-/

namespace CheckpointRelay.Dialogue

variable {Q : Type} {A : Q → Type} {Q' : Type} {A' : Q' → Type} {α β σ : Type}

/-- When the questions of a dialogue are answered from the state `s`, the result is `a`, and `s'` is the state after
it. -/
structure ComesTo (answer : σ → (q : Q) → A q × σ) (s : σ) (d : Dialogue Q A α) (a : α) (s' : σ) : Prop where
  result : (d.play answer s).1 = a
  state : (d.play answer s).2.2 = s'

section

variable {answer : σ → (q : Q) → A q × σ} {s s' s'' : σ}

/-- A dialogue that is done comes to its value and leaves the state. -/
theorem comesTo_done (a : α) : ComesTo answer s (.done a) a s := ⟨rfl, rfl⟩

/-- One question comes to its answer and the answerer's next state. -/
theorem comesTo_question {q : Q} {a : A q} (h : answer s q = (a, s')) : ComesTo answer s (question q) a s' :=
  ⟨congrArg Prod.fst h, congrArg Prod.snd h⟩

/-- Two dialogues in sequence come to what the second does from where the first leaves. -/
theorem ComesTo.bind {d : Dialogue Q A α} {f : α → Dialogue Q A β} {a : α} {b : β} (h : ComesTo answer s d a s')
    (hf : ComesTo answer s' (f a) b s'') : ComesTo answer s (d.bind f) b s'' := by
  obtain ⟨rfl, rfl⟩ := h
  obtain ⟨rfl, rfl⟩ := hf
  constructor <;> rw [play_bind]

end

section

variable {f : (q : Q) → Dialogue Q' A' (A q)} {answer : σ → (q : Q') → A' q × σ} {s s' last : σ}

/-- Whoever answers questions that are put through `f` gives the answers of a transcript, one after the other. -/
inductive Served (f : (q : Q) → Dialogue Q' A' (A q)) (answer : σ → (q : Q') → A' q × σ) :
    σ → List (Exchange Q A) → σ → Prop
  | nil (s : σ) : Served f answer s [] s
  | cons {s s' last : σ} {x : Exchange Q A} {rest : List (Exchange Q A)} (h : ComesTo answer s (f x.1) x.2 s')
      (hrest : Served f answer s' rest last) : Served f answer s (x :: rest) last

/-- One exchange is served when its dialogue comes to its answer. -/
theorem Served.single {x : Exchange Q A} (h : ComesTo answer s (f x.1) x.2 s') : Served f answer s [x] s' :=
  .cons h (.nil s')

/-- Exchanges served one list after the other are served as one list. -/
theorem Served.append {front back : List (Exchange Q A)} (h : Served f answer s front s')
    (h' : Served f answer s' back last) :
    Served f answer s (front ++ back) last := by
  induction h with
  | nil => exact h'
  | cons hx _ ih => exact .cons hx (ih h')

/-- A dialogue comes to the result of a transcript whose answers are given. -/
theorem Served.comesTo {d : Dialogue Q A α} {tr : List (Exchange Q A)} {a : α} (h : Served f answer s tr last)
    (ht : Transcript d tr a) :
    ComesTo answer s (d.interpret f) a last := by
  induction ht generalizing s with
  | done a =>
    cases h
    exact comesTo_done a
  | ask _ ih =>
    cases h with
    | cons hx hrest => exact hx.bind (ih hrest)

/-- When every question put through `f` has one answer and changes nothing, neither does the dialogue, and its result is
that of these answers. -/
theorem comesTo_answered {reader : (q : Q) → A q} (h : ∀ q, ComesTo answer s (f q) (reader q) s) (d : Dialogue Q A α) :
    ComesTo answer s (d.interpret f) (d.answered reader) s := by
  induction d with
  | done a => exact comesTo_done a
  | ask q next ih => exact (h q).bind (ih (reader q))

end

end CheckpointRelay.Dialogue
