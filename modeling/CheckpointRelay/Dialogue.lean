/-!
# Dialogues

A computation that consults the outside: it is done, or it asks a question and goes on with the answer. What is asked,
and in which order, is part of the value, so statements about every possible outside are statements about dialogues.
`play` answers the questions from a state and keeps the transcript; `play_bind` says that a sequence of dialogues is
played one after the other.
-/

namespace CheckpointRelay

/-- A computation that asks questions of type `Q`, each answered in its own type. -/
inductive Dialogue (Q : Type) (A : Q → Type) (α : Type) : Type
  /-- The result. -/
  | done (result : α)
  /-- A question, and how to go on with each answer. -/
  | ask (question : Q) (next : A question → Dialogue Q A α)

namespace Dialogue

variable {Q : Type} {A : Q → Type} {Q' : Type} {A' : Q' → Type} {α β σ : Type}

/-- One dialogue after the other. -/
def bind : Dialogue Q A α → (α → Dialogue Q A β) → Dialogue Q A β
  | done a, f => f a
  | ask q next, f => ask q fun answer => (next answer).bind f

instance : Monad (Dialogue Q A) where
  pure := done
  bind := bind

/-- The dialogue of one question. -/
def question (q : Q) : Dialogue Q A (A q) :=
  ask q done

/-- The result, when questions are answered in a monad. -/
def run {m : Type → Type} [Monad m] (answer : (q : Q) → m (A q)) : Dialogue Q A α → m α
  | done a => pure a
  | ask q next => do (next (← answer q)).run answer

/-- The dialogue with each question answered by a dialogue of other questions. -/
def interpret (f : (q : Q) → Dialogue Q' A' (A q)) : Dialogue Q A α → Dialogue Q' A' α
  | done a => done a
  | ask q next => (f q).bind fun answer => (next answer).interpret f

/-- A question with its answer. -/
abbrev Exchange (Q : Type) (A : Q → Type) : Type := (q : Q) × A q

/-- The result, the transcript and the last state, when questions are answered from a state. -/
def play (answer : σ → (q : Q) → A q × σ) : σ → Dialogue Q A α → α × List (Exchange Q A) × σ
  | s, done a => (a, [], s)
  | s, ask q next =>
    let (r, s') := answer s q
    let (a, transcript, last) := (next r).play answer s'
    (a, ⟨q, r⟩ :: transcript, last)

/-- Returning a value is the dialogue that is done. -/
@[simp] theorem pure_eq (a : α) : (pure a : Dialogue Q A α) = done a := rfl

/-- The monad's bind is `bind`. -/
@[simp] theorem bind_eq (d : Dialogue Q A α) (f : α → Dialogue Q A β) : d >>= f = d.bind f := rfl

/-- Nothing is asked before a dialogue that is done hands its value on. -/
@[simp] theorem done_bind (a : α) (f : α → Dialogue Q A β) : (done a).bind f = f a := rfl

/-- Sequencing behind a question sequences behind each of its answers. -/
@[simp] theorem ask_bind (q : Q) (next : A q → Dialogue Q A α) (f : α → Dialogue Q A β) :
    (ask q next).bind f = ask q fun answer => (next answer).bind f := rfl

/-- Sequencing with the dialogue that only returns changes nothing. -/
@[simp] theorem bind_done (d : Dialogue Q A α) : d.bind done = d := by
  induction d with
  | done a => rfl
  | ask q next ih => simp [ih]

/-- Sequencing is associative. -/
theorem bind_assoc {γ : Type} (d : Dialogue Q A α) (f : α → Dialogue Q A β) (g : β → Dialogue Q A γ) :
    (d.bind f).bind g = d.bind fun a => (f a).bind g := by
  induction d with
  | done a => rfl
  | ask q next ih => simp [ih]

/-- Playing two dialogues in sequence plays the second from the state the first leaves; the transcripts are joined. -/
theorem play_bind (answer : σ → (q : Q) → A q × σ) (s : σ) (d : Dialogue Q A α) (f : α → Dialogue Q A β) :
    (d.bind f).play answer s =
      let (a, front, s') := d.play answer s
      let (b, back, last) := (f a).play answer s'
      (b, front ++ back, last) := by
  induction d generalizing s with
  | done a => rfl
  | ask q next ih => simp [play, ih]

end Dialogue

end CheckpointRelay
