import CheckpointRelay.Text.Search

/-!
# Words across joins, and where a word occurs first

A word that does not hold a separator does not reach across it: it occurs on one side or on the other
(`infix_append_cons_iff`), or in one of several parts with separators between them (`infix_intercalate_iff`). A search
finds the first occurrence (`after?_map_eq_some_iff`), and a word that starts as it nowhere goes on occurs first behind
what does not hold it (`length_le_of_not_infix`).
-/

namespace CheckpointRelay.Text

variable {word front back : List Char} {c : Char}

/-- A word does not reach across a character that it does not hold. -/
theorem infix_append_cons_iff (hc : c ∉ word) : word <:+: front ++ c :: back ↔ word <:+: front ∨ word <:+: back := by
  constructor
  · intro h
    rcases List.infix_append_iff.mp h with hfront | hback | ⟨left, right, hword, hleft, hright⟩
    · exact .inl hfront
    · rcases List.infix_cons_iff.mp hback with hstart | hinfix
      · cases word with
        | nil => exact .inl (List.nil_infix)
        | cons x word =>
          obtain ⟨rfl, -⟩ := List.cons_prefix_cons.mp hstart
          exact absurd List.mem_cons_self hc
      · exact .inr hinfix
    · cases right with
      | nil =>
        rw [List.append_nil] at hword
        exact .inl (hword ▸ hleft.isInfix)
      | cons x right =>
        obtain ⟨rfl, -⟩ := List.cons_prefix_cons.mp hright
        exact absurd (hword ▸ List.mem_append_right left List.mem_cons_self) hc
  · rintro (hfront | hback)
    · exact hfront.trans (List.prefix_append _ _).isInfix
    · exact hback.trans (((List.suffix_cons c back).trans (List.suffix_append front _)).isInfix)

/-- A word occurs behind characters with which it does not start where it occurs in what follows them. -/
theorem infix_append_iff_of_head {x : Char} (h : x ∉ front) : x :: word <:+: front ++ back ↔ x :: word <:+: back := by
  induction front with
  | nil => rfl
  | cons c front ih =>
    have hne : x ≠ c := fun hx => h (hx ▸ List.mem_cons_self)
    have hfront : x ∉ front := fun hx => h (List.mem_cons_of_mem c hx)
    rw [List.cons_append, List.infix_cons_iff, ih hfront, List.cons_prefix_cons]
    exact or_iff_right fun hx => hne hx.1

/-- A word with a character that does not occur does not occur either. -/
theorem not_infix_of_notMem {cs : List Char} (hword : c ∈ word) (hcs : c ∉ cs) : ¬word <:+: cs :=
  fun h => hcs (h.subset hword)

/-- A word occurs in parts with separators between them where it occurs in one of them. -/
theorem infix_intercalate_iff {parts : List (List Char)} (hc : c ∉ word) (hne : parts ≠ []) :
    word <:+: [c].intercalate parts ↔ ∃ part ∈ parts, word <:+: part := by
  induction parts with
  | nil => exact absurd rfl hne
  | cons part parts ih =>
    cases parts with
    | nil => simp
    | cons next parts =>
      have hjoin : [c].intercalate (part :: next :: parts) = part ++ c :: [c].intercalate (next :: parts) := by
        simp
      rw [hjoin, infix_append_cons_iff hc, ih (List.cons_ne_nil _ _)]
      simp only [List.mem_cons, exists_eq_or_imp]

/-- One part more stands behind a separator. -/
theorem intercalate_concat {parts : List (List Char)} (c : Char) (last : List Char) (hne : parts ≠ []) :
    [c].intercalate (parts ++ [last]) = [c].intercalate parts ++ c :: last := by
  induction parts with
  | nil => exact absurd rfl hne
  | cons part parts ih =>
    cases parts with
    | nil => simp
    | cons next parts => simpa using ih (List.cons_ne_nil next parts)

/-! ## First occurrences -/

/-- What a search finds stands behind an occurrence before which there is none. -/
theorem exists_first_of_after? {cs : List Char} (h : after? word cs = some back) :
    ∃ front, cs = front ++ (word ++ back) ∧ ∀ earlier later, cs = earlier ++ (word ++ later) →
      front.length ≤ earlier.length := by
  -- over the text: where the word does not start at once, its first place is the one in the rest
  induction cs with
  | nil =>
    simp only [after?] at h
    split at h
    next hword =>
      cases h
      exact ⟨[], by rw [hword, List.append_nil, List.append_nil], fun _ _ _ => Nat.zero_le _⟩
    next => cases h
  | cons c rest ih =>
    rw [after?] at h
    split at h
    next hword =>
      obtain ⟨later, hlater⟩ := List.isPrefixOf_iff_prefix.mp hword
      rw [← hlater, List.drop_left, Option.some.injEq] at h
      exact ⟨[], by rw [List.nil_append, ← h, hlater], fun _ _ _ => Nat.zero_le _⟩
    next hword =>
      obtain ⟨front, hfront, hfirst⟩ := ih h
      refine ⟨c :: front, by rw [hfront, List.cons_append], fun earlier later heq => ?_⟩
      cases earlier with
      | nil => exact absurd (List.isPrefixOf_iff_prefix.mpr ⟨later, heq.symm⟩) hword
      | cons d earlier => exact Nat.succ_le_succ (hfirst earlier later (List.cons.inj heq).2)

/-- What stands behind a word is found at the word's first place. -/
theorem after?_of_first {cs : List Char} (h : cs = front ++ (word ++ back))
    (hfirst : ∀ earlier later, cs = earlier ++ (word ++ later) → front.length ≤ earlier.length) :
    after? word cs = some back := by
  have hoccurs : occurs word cs = true := by
    rw [ occurs_iff_infix]
    exact ⟨front, back, by rw [h, List.append_assoc]⟩
  obtain ⟨back', hback⟩ := Option.isSome_iff_exists.mp hoccurs
  obtain ⟨front', h', hfirst'⟩ := exists_first_of_after? hback
  have hlength : front.length = front'.length := Nat.le_antisymm (hfirst _ _ h') (hfirst' _ _ h)
  have hrest := (List.append_inj (h.symm.trans h') hlength).2
  rw [hback, List.append_cancel_left hrest]

/-- A search among characters told apart by their values finds the first of the words with these values. -/
theorem after?_map_eq_some_iff {f : Char → Char} {cs : List Char} : after? word (cs.map f) = some back ↔
    ∃ front found later, cs = front ++ (found ++ later) ∧ found.map f = word ∧ later.map f = back ∧
      ∀ earlier found' rest,
        cs = earlier ++ (found' ++ rest) → found'.map f = word → front.length ≤ earlier.length := by
  constructor
  · intro h
    obtain ⟨front, heq, hfirst⟩ := exists_first_of_after? h
    obtain ⟨front, behind, rfl, rfl, hbehind⟩ := List.map_eq_append_iff.mp heq
    obtain ⟨found, later, rfl, hfound, hlater⟩ := List.map_eq_append_iff.mp hbehind
    refine ⟨front, found, later, rfl, hfound, hlater, fun earlier found' rest heq' hfound' => ?_⟩
    have hle := hfirst (earlier.map f) (rest.map f) (by rw [heq', List.map_append, List.map_append, hfound'])
    rwa [List.length_map, List.length_map] at hle
  · rintro ⟨front, found, later, rfl, hfound, hlater, hfirst⟩
    refine after?_of_first (by rw [List.map_append, List.map_append, hfound, hlater]) fun earlier rest heq => ?_
    obtain ⟨earlier, behind, heq', rfl, hbehind⟩ := List.map_eq_append_iff.mp heq
    obtain ⟨found', rest, rfl, hfound', -⟩ := List.map_eq_append_iff.mp hbehind
    rw [List.length_map, List.length_map]
    exact hfirst earlier found' rest heq' hfound'

/-- A word whose first character it does not hold again overlaps no other occurrence, so it occurs first where there is
none before. -/
theorem length_le_of_not_infix {x : Char} (hx : x ∉ word) (h : ¬x :: word <:+: front) {earlier later : List Char}
    (heq : front ++ (x :: word ++ back) = earlier ++ (x :: word ++ later)) : front.length ≤ earlier.length := by
  refine Nat.le_of_not_lt fun hlt => ?_
  rcases List.append_eq_append_iff.mp heq with ⟨middle, rfl, -⟩ | ⟨middle, rfl, hmiddle⟩
  · rw [List.length_append] at hlt
    omega
  · cases middle with
    | nil => simp at hlt
    | cons y middle =>
      rw [List.cons_append, List.cons_append, List.cons.injEq] at hmiddle
      obtain ⟨rfl, hmiddle⟩ := hmiddle
      -- The other occurrence starts in front of this one: it ends there too, or it holds the first character of this
      -- one.
      rcases List.append_eq_append_iff.mp hmiddle with ⟨rest, rfl, -⟩ | ⟨rest, rfl, hrest⟩
      · exact h ⟨earlier, rest, by simp⟩
      · cases rest with
        | nil => exact h ⟨earlier, [], by simp⟩
        | cons z rest =>
          obtain ⟨rfl, -⟩ := List.cons.inj hrest
          exact hx (List.mem_append_right middle List.mem_cons_self)

end CheckpointRelay.Text
