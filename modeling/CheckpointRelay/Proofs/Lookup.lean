import Mathlib.Data.List.Basic

/-!
# Finding entries by their keys

A lookup finds the first entry with a key. Among entries with different keys it finds an entry wherever that stands, so
that neither their order nor other entries matter.
-/

namespace CheckpointRelay

variable {κ ν : Type} [BEq κ] [LawfulBEq κ] {entries entries' : List (κ × ν)} {k : κ} {v : ν}

/-- Looking a key up in a list compares it with the first key before the rest. -/
theorem lookup_cons_eq_ite [DecidableEq κ] (k' : κ) :
    ((k', v) :: entries).lookup k = if k = k' then some v else entries.lookup k := by
  rw [List.lookup_cons]
  by_cases h : k = k'
  · simp [h]
  · simp [h, beq_eq_false_iff_ne.mpr h]

/-- What is found stands in the list. -/
theorem mem_of_lookup (h : entries.lookup k = some v) : (k, v) ∈ entries := by
  obtain ⟨front, back, rfl, _⟩ := List.lookup_eq_some_iff.mp h
  exact List.mem_append_right _ (List.mem_cons_self)

/-- What is not found does not stand there. -/
theorem not_mem_of_lookup (h : entries.lookup k = none) (v : ν) : (k, v) ∉ entries := by
  intro hmem
  have hne := List.lookup_eq_none_iff.mp h (k, v) hmem
  simp at hne

/-- Entries with different keys are found where they stand. -/
theorem lookup_eq_some_iff_mem (hnodup : (entries.map Prod.fst).Nodup) :
    entries.lookup k = some v ↔ (k, v) ∈ entries := by
  refine ⟨mem_of_lookup, fun hmem => ?_⟩
  induction entries with
  | nil => nomatch hmem
  | cons entry entries ih =>
    rw [List.map_cons, List.nodup_cons] at hnodup
    rcases List.mem_cons.mp hmem with rfl | hmem
    · exact List.lookup_cons_self
    · have hne : k ≠ entry.1 := by
        rintro rfl
        exact hnodup.1 (List.mem_map.mpr ⟨_, hmem, rfl⟩)
      rw [List.lookup_cons, beq_eq_false_iff_ne.mpr hne]
      exact ih hnodup.2 hmem

/-- Entries that a function gives are found as it gives them. -/
theorem lookup_of_mem {f : κ → ν} (hf : ∀ entry ∈ entries, entry.2 = f entry.1) (h : (k, v) ∈ entries) :
    entries.lookup k = some (f k) := by
  cases hk : entries.lookup k with
  | none => exact absurd h (not_mem_of_lookup hk v)
  | some found => rw [← hf _ (mem_of_lookup hk)]

/-- The order of entries with different keys does not matter. -/
theorem lookup_eq_of_perm (hperm : entries.Perm entries') (hnodup : (entries'.map Prod.fst).Nodup) :
    entries.lookup k = entries'.lookup k := by
  have hnodup' : (entries.map Prod.fst).Nodup := (hperm.map Prod.fst).nodup_iff.mpr hnodup
  refine Option.ext fun v => ?_
  rw [lookup_eq_some_iff_mem hnodup', lookup_eq_some_iff_mem hnodup, hperm.mem_iff]

/-- Entries with other keys do not matter. -/
theorem lookup_filter {p : κ → Bool} (hp : p k = true) :
    (entries.filter fun entry => p entry.1).lookup k = entries.lookup k := by
  induction entries with
  | nil => rfl
  | cons entry entries ih =>
    by_cases hkey : k = entry.1
    · rw [List.filter_cons_of_pos (hkey ▸ hp), List.lookup_cons, List.lookup_cons, beq_iff_eq.mpr hkey]
    · have hother : (entry :: entries).lookup k = entries.lookup k := by
          rw [List.lookup_cons, beq_eq_false_iff_ne.mpr hkey]
      rw [hother, ← ih, List.filter_cons]
      split
      · rw [List.lookup_cons, beq_eq_false_iff_ne.mpr hkey]
      · rfl

end CheckpointRelay
