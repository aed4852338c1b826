import CheckpointRelay.Dialogue

/-!
# Dialogues whose questions have one answer each

When every question is always answered alike, a dialogue is a value: `answered` gives it, and a sequence of dialogues is
answered one after the other (`answered_bind`, and `answered_except_bind` where the first may fail).
-/

namespace CheckpointRelay.Dialogue

variable {Q : Type} {A : Q → Type} {α β ε : Type}

/-- The result, when every question has one answer. -/
def answered (answer : (q : Q) → A q) (d : Dialogue Q A α) : α :=
  Id.run (d.run fun q => pure (answer q))

variable {answer : (q : Q) → A q}

/-- A dialogue that is done gives its value, whoever answers. -/
@[simp] theorem answered_done (a : α) : (done a).answered answer = a := rfl

/-- A question takes the answerer's answer. -/
theorem answered_ask (q : Q) (next : A q → Dialogue Q A α) :
    (ask q next).answered answer = (next (answer q)).answered answer := rfl

/-- Asking one question gives its answer. -/
@[simp] theorem answered_question (q : Q) : (question q).answered answer = answer q := rfl

/-- Answering two dialogues in sequence answers the second with what the first gives. -/
@[simp] theorem answered_bind (d : Dialogue Q A α) (f : α → Dialogue Q A β) :
    (d.bind f).answered answer = (f (d.answered answer)).answered answer := by
  induction d with
  | done a => rfl
  | ask q next ih => rw [ask_bind, answered_ask, answered_ask, ih]

/-- Wrapping a dialogue that may fail does not change what it gives. -/
theorem answered_mk (d : Dialogue Q A (Except ε α)) : (ExceptT.mk d).run.answered answer = d.answered answer := rfl

/-- What follows a dialogue that fails is not asked. -/
theorem answered_except_bind (x : ExceptT ε (Dialogue Q A) α) (f : α → ExceptT ε (Dialogue Q A) β) :
    (x >>= f).run.answered answer = x.run.answered answer >>= fun a => (f a).run.answered answer := by
  have h : (x >>= f).run.answered answer = (ExceptT.bindCont f (x.run.answered answer)).answered answer :=
    answered_bind x.run _
  rw [h]
  cases x.run.answered answer <;> rfl

/-- Renaming the failures of a dialogue renames the failure it gives. -/
theorem answered_adapt {ε' : Type} (f : ε → ε') (x : ExceptT ε (Dialogue Q A) α) :
    (x.adapt f).run.answered answer = (x.run.answered answer).mapError f :=
  answered_bind x.run _

end CheckpointRelay.Dialogue
