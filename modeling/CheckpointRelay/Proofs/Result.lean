import Mathlib.Data.List.Forall2

/-!
# Results of steps that can fail

When a sequence of steps succeeds: exactly when each of them does.
-/

namespace CheckpointRelay.Result

variable {ε ε' α β : Type}

/-- What follows a result takes it. -/
theorem ok_bind (a : α) (f : α → Except ε β) : Except.ok a >>= f = f a := rfl

/-- A sequence succeeds exactly when its first part does and then the second. -/
theorem bind_eq_ok {x : Except ε α} {f : α → Except ε β} {b : β} : x >>= f = .ok b ↔ ∃ a, x = .ok a ∧ f a = .ok b := by
  cases x with
  | error e => exact ⟨nofun, fun ⟨_, h, _⟩ => nomatch h⟩
  | ok a => exact ⟨fun h => ⟨a, rfl, h⟩, fun ⟨_, h, hf⟩ => Except.ok.inj h ▸ hf⟩

/-- Renaming errors changes no result. -/
theorem mapError_eq_ok {x : Except ε α} {f : ε → ε'} {a : α} : x.mapError f = .ok a ↔ x = .ok a := by
  cases x with
  | error e => exact ⟨nofun, nofun⟩
  | ok b => exact ⟨fun h => congrArg Except.ok (Except.ok.inj h), fun h => congrArg Except.ok (Except.ok.inj h)⟩

/-- Forgetting the error keeps the result. -/
theorem toOption_eq_some {x : Except ε α} {a : α} : x.toOption = some a ↔ x = .ok a := by
  cases x with
  | error e => exact ⟨nofun, nofun⟩
  | ok b => exact ⟨fun h => congrArg Except.ok (Option.some.inj h), fun h => congrArg some (Except.ok.inj h)⟩

/-- Returning a value succeeds with it. -/
theorem pure_eq_ok {a b : α} : (pure a : Except ε α) = .ok b ↔ a = b :=
  ⟨Except.ok.inj, congrArg Except.ok⟩

/-- Steps that are refused under a condition succeed exactly when the condition fails and what follows succeeds. -/
theorem unless_eq_ok {p : Prop} [Decidable p] {e : ε} {next : Unit → Except ε α} {a : α} :
    (if p then throw e >>= next else next ()) = .ok a ↔ ¬p ∧ next () = .ok a := by
  by_cases h : p
  · rw [if_pos h]
    exact ⟨nofun, fun ⟨hn, _⟩ => absurd h hn⟩
  · rw [if_neg h]
    exact ⟨fun hx => ⟨h, hx⟩, fun ⟨_, hx⟩ => hx⟩

/-- Steps all succeed exactly when each of them does, with its own result. -/
theorem mapM_eq_ok_iff {f : α → Except ε β} {as : List α} {bs : List β} :
    as.mapM f = .ok bs ↔ List.Forall₂ (fun a b => f a = .ok b) as bs := by
  induction as generalizing bs with
  | nil =>
    rw [List.mapM_nil, pure_eq_ok, List.forall₂_nil_left_iff]
    exact eq_comm
  | cons a as ih =>
    rw [List.mapM_cons, bind_eq_ok, List.forall₂_cons_left_iff]
    constructor
    · rintro ⟨b, hb, hrest⟩
      obtain ⟨bs', hbs, hcons⟩ := bind_eq_ok.mp hrest
      exact ⟨b, bs', hb, ih.mp hbs, (pure_eq_ok.mp hcons).symm⟩
    · rintro ⟨b, bs', hb, hbs, rfl⟩
      exact ⟨b, hb, bind_eq_ok.mpr ⟨bs', ih.mpr hbs, rfl⟩⟩

/-- Steps that all succeed give one result each. -/
theorem length_mapM {f : α → Except ε β} {as : List α} {bs : List β} (h : as.mapM f = .ok bs) : bs.length = as.length :=
  (mapM_eq_ok_iff.mp h).length_eq.symm

/-- When steps fail, one of them does, in the same way. -/
theorem exists_of_mapM_eq_error {f : α → Except ε β} {as : List α} {e : ε} (h : as.mapM f = .error e) :
    ∃ a ∈ as, f a = .error e := by
  induction as with
  | nil => nomatch h
  | cons a as ih =>
    rw [List.mapM_cons] at h
    cases hb : f a with
    | error e' =>
      rw [hb] at h
      obtain rfl : e' = e := Except.error.inj h
      exact ⟨a, List.mem_cons_self, hb⟩
    | ok b =>
      cases hbs : as.mapM f with
      | error e' =>
        rw [hb, ok_bind, hbs] at h
        obtain rfl : e' = e := Except.error.inj h
        obtain ⟨a', hmem, hfails⟩ := ih hbs
        exact ⟨a', List.mem_cons_of_mem _ hmem, hfails⟩
      | ok bs =>
        rw [hb, ok_bind, hbs] at h
        nomatch h

end CheckpointRelay.Result
