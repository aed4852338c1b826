import CheckpointRelay.Proofs.Text.Digits
import CheckpointRelay.Text.Blank
import Mathlib.Data.List.TakeWhile

/-!
# Blanks around a text

A text is blanks, what is left when it is trimmed, and blanks (`exists_blanks`); and if blanks stand around characters
of which none is blank, these are what is left (`trimChars_append`).
-/

namespace CheckpointRelay.Text

/-- Nothing is dropped from a text without blanks. -/
theorem dropWhile_isBlank {cs : List Char} (h : ∀ c ∈ cs, isBlank c = false) : cs.dropWhile isBlank = cs := by
  cases cs with
  | nil => rfl
  | cons c cs => rw [List.dropWhile_cons, h c List.mem_cons_self, if_neg Bool.false_ne_true]

/-- Blanks behind a text without blanks are trimmed. -/
theorem trimEnd_append {cs back : List Char} (hcs : ∀ c ∈ cs, isBlank c = false)
    (hback : ∀ c ∈ back, isBlank c = true) :
    trimEnd (cs ++ back) = cs := by
  rw [trimEnd, List.reverse_append, List.dropWhile_append_of_pos fun c hc => hback c (List.mem_reverse.mp hc),
    dropWhile_isBlank fun c hc => hcs c (List.mem_reverse.mp hc), List.reverse_reverse]

/-- Blanks around a text without blanks are trimmed. -/
theorem trimChars_append {front cs back : List Char} (hfront : ∀ c ∈ front, isBlank c = true)
    (hcs : ∀ c ∈ cs, isBlank c = false) (hback : ∀ c ∈ back, isBlank c = true) :
    trimChars (front ++ cs ++ back) = cs := by
  rw [trimChars, List.append_assoc, List.dropWhile_append_of_pos hfront]
  cases cs with
  | nil =>
    have hall : back.dropWhile isBlank = [] := List.dropWhile_eq_nil_iff.mpr hback
    rw [List.nil_append, hall]
    rfl
  | cons c cs =>
    have hfirst : ((c :: cs) ++ back).dropWhile isBlank = (c :: cs) ++ back :=
      List.dropWhile_cons_of_neg (Bool.not_eq_true _ ▸ hcs c List.mem_cons_self)
    rw [hfirst, trimEnd_append hcs hback]

/-- Blanks stand around what is left of every text. -/
theorem exists_blanks (cs : List Char) :
    ∃ front back, cs = front ++ trimChars cs ++ back ∧ (∀ c ∈ front, isBlank c = true) ∧
      ∀ c ∈ back, isBlank c = true := by
  have hstart := List.takeWhile_append_dropWhile (p := isBlank) (l := cs)
  have hend := congrArg List.reverse
      (List.takeWhile_append_dropWhile (p := isBlank) (l := (cs.dropWhile isBlank).reverse))
  rw [List.reverse_append, List.reverse_reverse] at hend
  refine ⟨cs.takeWhile isBlank, ((cs.dropWhile isBlank).reverse.takeWhile isBlank).reverse, ?_,
    fun c => List.mem_takeWhile_imp, fun c hc => List.mem_takeWhile_imp (List.mem_reverse.mp hc)⟩
  rw [trimChars, trimEnd, List.append_assoc, hend, hstart]

/-- A hexadecimal digit is no blank. -/
theorem isBlank_of_isHexDigit {c : Char} (h : isHexDigit c = true) : isBlank c = false := by
  have hall : ∀ c : Fin 128, isHexDigit (Char.ofNat c.val) = true → isBlank (Char.ofNat c.val) = false := by decide
  obtain ⟨n, hn⟩ := Option.isSome_iff_exists.mp h
  have hc := hall ⟨c.toNat, (lt_of_hexValue? hn).1⟩
  rw [Char.ofNat_toNat] at hc
  exact hc h

end CheckpointRelay.Text
