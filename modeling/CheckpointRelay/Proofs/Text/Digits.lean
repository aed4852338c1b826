import CheckpointRelay.Text.Scan
import Mathlib.Tactic.Ring

/-!
# Digits and the numbers that they write

Digits in front of others count by the place they stand at (`numberOf_append`), and the decimal digits of a number write
it (`numberOf_toDigits`).
-/

namespace CheckpointRelay.Text

variable {c : Char} {n : Nat}

/-- Reading digits behind a number shifts the number by their count. -/
theorem foldl_numberOf (base n : Nat) (digits : List Char) :
    digits.foldl (fun n c => n * base + (hexValue? c).getD 0) n = n * base ^ digits.length + numberOf base digits := by
  unfold numberOf
  induction digits generalizing n with
  | nil => simp
  | cons c digits ih =>
    rw [List.foldl_cons, ih, List.foldl_cons, ih (0 * base + _), List.length_cons]
    ring

/-- The digits in front count for more by the number of those behind. -/
theorem numberOf_append (base : Nat) (front back : List Char) :
    numberOf base (front ++ back) = numberOf base front * base ^ back.length + numberOf base back := by
  rw [← foldl_numberOf, numberOf, List.foldl_append, numberOf]

/-- The values of digits are below sixteen, and only characters of ASCII have one. -/
theorem lt_of_hexValue? (h : hexValue? c = some n) : c.toNat < 128 ∧ n < 16 := by
  have hbound {last : Char} (h : c ≤ last) : c.toNat ≤ last.toNat := UInt32.le_iff_toNat_le.mp h
  unfold hexValue? at h
  split_ifs at h with hdecimal hlower hupper
  · have hlast : c.toNat ≤ 57 := hbound hdecimal.2
    have hn := Option.some.inj h
    omega
  · have hlast : c.toNat ≤ 102 := hbound hlower.2
    have hn := Option.some.inj h
    omega
  · have hlast : c.toNat ≤ 70 := hbound hupper.2
    have hn := Option.some.inj h
    omega

/-- A decimal digit has its value in the hexadecimal digits too. -/
theorem hexValue?_of_isDigit (h : isDigit c = true) : hexValue? c = some (c.toNat - 48) :=
  if_pos (by simpa [isDigit] using h)

/-- The decimal digits of a number are digits. -/
theorem isDigit_of_mem_toDigits (h : c ∈ Nat.toDigits 10 n) : isDigit c = true := by
  have hdigit := Nat.isDigit_of_mem_toDigits (by decide) (by decide) h
  simpa [isDigit, Char.isDigit, Char.le_def] using hdigit

/-- The decimal digits of a number write it. -/
theorem numberOf_toDigits (n : Nat) : numberOf 10 (Nat.toDigits 10 n) = n := by
  have hvalues : ∀ digits : List Char, (∀ c ∈ digits, isDigit c = true) → ∀ m,
      digits.foldl (fun n c => n * 10 + (hexValue? c).getD 0) m = Nat.ofDigitChars 10 digits m := by
    intro digits hdigits
    induction digits with
    | nil => exact fun m => rfl
    | cons c digits ih =>
      intro m
      rw [List.foldl_cons, ih fun d hd => hdigits d (List.mem_cons_of_mem _ hd),
        hexValue?_of_isDigit (hdigits c List.mem_cons_self), Nat.ofDigitChars_cons, Nat.mul_comm m]
      rfl
  rw [numberOf, hvalues _ fun c => isDigit_of_mem_toDigits, Nat.ofDigitChars_toDigits (by decide) (by decide)]

end CheckpointRelay.Text
