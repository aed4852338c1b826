import CheckpointRelay.Dialogue

/-!
# Dialogues that are cut short

A dialogue is cut from a longer one when it is the same but for places where it ends, unsettled, and the longer one may
go on. Whoever plays both leaves a transcript of the longer one that begins with that of the shorter, and the same play
if the shorter one ends settled (`CutFrom.play`).
-/

namespace CheckpointRelay.Dialogue

variable {Q : Type} {A : Q → Type} {α β σ : Type}

/-- `CutFrom unsettled d long`: `d` is `long`, but may end sooner with a result that is unsettled. -/
inductive CutFrom (unsettled : α → Prop) : Dialogue Q A α → Dialogue Q A α → Prop
  /-- The same result. -/
  | done (a : α) : CutFrom unsettled (.done a) (.done a)
  /-- The end of the shorter dialogue. -/
  | cut {a : α} (h : unsettled a) (long : Dialogue Q A α) : CutFrom unsettled (.done a) long
  /-- The same question. -/
  | ask {q : Q} {next next' : A q → Dialogue Q A α} (h : ∀ answer, CutFrom unsettled (next answer) (next' answer)) :
    CutFrom unsettled (.ask q next) (.ask q next')

variable {unsettled : α → Prop} {unsettled' : β → Prop} {d long : Dialogue Q A α}

/-- A dialogue is a cut of itself. -/
theorem CutFrom.refl (d : Dialogue Q A α) : CutFrom unsettled d d := by
  induction d with
  | done a => exact .done a
  | ask q next ih => exact .ask ih

/-- The same dialogue before one that is cut. -/
theorem CutFrom.bind_right {f f' : α → Dialogue Q A β} (h : ∀ a, CutFrom unsettled' (f a) (f' a)) (d : Dialogue Q A α) :
    CutFrom unsettled' (d.bind f) (d.bind f') := by
  induction d with
  | done a => exact h a
  | ask q next ih => exact .ask ih

/-- The same dialogue after one that is cut, if it ends at once, and unsettled, after an unsettled result. -/
theorem CutFrom.bind_left {f : α → Dialogue Q A β} (h : CutFrom unsettled d long)
    (hf : ∀ a, unsettled a → ∃ b, f a = .done b ∧ unsettled' b) : CutFrom unsettled' (d.bind f) (long.bind f) := by
  induction h with
  | done a => exact .refl (f a)
  | @cut a ha long =>
    obtain ⟨b, hb, hunsettled⟩ := hf a ha
    rw [done_bind, hb]
    exact .cut hunsettled _
  | ask _ ih => exact .ask ih

/-- The same dialogue before one that is cut, where both can fail. -/
theorem CutFrom.except_right {ε : Type} {unsettled : Except ε β → Prop} {x : ExceptT ε (Dialogue Q A) α}
    {f f' : α → ExceptT ε (Dialogue Q A) β} (h : ∀ a, CutFrom unsettled (f a).run (f' a).run) :
    CutFrom unsettled (x >>= f).run (x >>= f').run := by
  refine CutFrom.bind_right (fun r => ?_) x.run
  cases r with
  | error e => exact .done _
  | ok a => exact h a

/-- The transcript of the longer dialogue begins with that of the shorter one, and nothing differs if that ends
settled. -/
theorem CutFrom.play (h : CutFrom unsettled d long) (answer : σ → (q : Q) → A q × σ) (s : σ) :
    (d.play answer s).2.1 <+: (long.play answer s).2.1 ∧
      (¬unsettled (d.play answer s).1 → long.play answer s = d.play answer s) := by
  induction h generalizing s with
  | done a => exact ⟨List.prefix_refl _, fun _ => rfl⟩
  | cut ha long => exact ⟨List.nil_prefix, fun hsettled => absurd ha hsettled⟩
  | @ask q next next' h ih =>
    obtain ⟨hbegins, hsame⟩ := ih (answer s q).1 (answer s q).2
    exact ⟨List.cons_prefix_cons.mpr ⟨rfl, hbegins⟩, fun hsettled =>
      congrArg (fun played => (played.1, ⟨q, (answer s q).1⟩ :: played.2.1, played.2.2)) (hsame hsettled)⟩

end CheckpointRelay.Dialogue
