/-!
# Searching text

Where a word first occurs in a sequence of characters, what stands between separators, and letters of ASCII without
case. Main statements: `occurs_iff_infix`, a word occurs where it is an infix, and `eq_append_of_cut`, cutting a
sequence at a word loses nothing.
-/

namespace CheckpointRelay.Text

/-- What follows the first occurrence of a word, if there is one. -/
def after? (word : List Char) : List Char → Option (List Char)
  | [] => if word = [] then some [] else none
  | c :: rest => if word.isPrefixOf (c :: rest) then some ((c :: rest).drop word.length) else after? word rest

/-- Whether a word occurs. -/
def occurs (word cs : List Char) : Bool :=
  (after? word cs).isSome

/-- Whether a word occurs in a text. -/
def contains (s word : String) : Bool :=
  occurs word.toList s.toList

/-- What stands before the first occurrence of a word, and what follows it if there is one. -/
def cut (word cs : List Char) : List Char × Option (List Char) :=
  match after? word cs with
  | some rest => (cs.take (cs.length - word.length - rest.length), some rest)
  | none => (cs, none)

/-- The parts of a sequence between separators; there is always one. -/
def parts (isSeparator : Char → Bool) : List Char → List (List Char)
  | [] => [[]]
  | c :: rest =>
    if isSeparator c then [] :: parts isSeparator rest
    else match parts isSeparator rest with
    | part :: later => (c :: part) :: later
    | [] => [[c]]

/-- A character, in lower case if it is a letter of ASCII. -/
def lower (c : Char) : Char :=
  if 'A' ≤ c ∧ c ≤ 'Z' then Char.ofNat (c.toNat + 32) else c

/-- What is found behind a word stands behind it in the text. -/
theorem exists_eq_append_of_after? {word cs rest : List Char} (h : after? word cs = some rest) :
    ∃ front, cs = front ++ (word ++ rest) := by
  induction cs with
  | nil =>
    simp only [after?] at h
    split at h <;> simp_all
  | cons c later ih =>
    rw [after?] at h
    split at h
    · next hp =>
      obtain ⟨back, hback⟩ := List.isPrefixOf_iff_prefix.mp hp
      rw [← hback, List.drop_left, Option.some.injEq] at h
      exact ⟨[], by rw [List.nil_append, ← h, hback]⟩
    · obtain ⟨front, hfront⟩ := ih h
      exact ⟨c :: front, by rw [hfront, List.cons_append]⟩

/-- Where a word is found, what stands before it and what follows it are the rest of the sequence. -/
theorem eq_append_of_cut {word cs front back : List Char} (h : cut word cs = (front, some back)) :
    cs = front ++ (word ++ back) := by
  unfold cut at h
  split at h
  · next rest hr =>
    obtain ⟨start, rfl⟩ := exists_eq_append_of_after? hr
    simp only [Prod.mk.injEq, Option.some.injEq] at h
    obtain ⟨rfl, rfl⟩ := h
    have hlen : (start ++ (word ++ rest)).length - word.length - rest.length = start.length := by simp; omega
    rw [hlen, List.take_left]
  · simp at h

/-- A word occurs in a text exactly when it is part of it. -/
theorem occurs_iff_infix (word cs : List Char) : occurs word cs = true ↔ word <:+: cs := by
  unfold occurs
  induction cs with
  | nil => simp [after?]
  | cons c rest ih =>
    rw [after?]
    by_cases h : word.isPrefixOf (c :: rest) = true
    · simp only [h, if_true, Option.isSome_some, true_iff]
      exact (List.isPrefixOf_iff_prefix.mp h).isInfix
    · simp only [h, Bool.false_eq_true, if_false, ih]
      rw [List.infix_cons_iff]
      simp only [List.isPrefixOf_iff_prefix] at h
      simp [h]

end CheckpointRelay.Text
