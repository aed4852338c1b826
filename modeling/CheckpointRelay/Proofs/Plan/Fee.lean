import CheckpointRelay.Plan.Events
import CheckpointRelay.Proofs.Bytes
import Mathlib.Algebra.Order.Floor.Div

/-!
# Fees

The fee on an amount is a part of it, rounded down, so what is left is the rest, rounded up (`sub_fee_eq_ceilDiv`): it
grows with the amount, and two amounts leave one unit more at most than their sum (`sub_fee_add`). `Charged` lists how a
fee in numbers of 256 bits can come out: three ways to fail, each told as what it is, and otherwise what arrives and the
fee make up the amount.
-/

namespace CheckpointRelay.Plan

/-! ## Fees in plain numbers -/

section

variable {amount more feeBps denominator : Nat}

/-- A part of an amount, rounded down, is no more than the amount. -/
theorem fee_le (hpart : feeBps ≤ denominator) : amount * feeBps / denominator ≤ amount := by
  refine Nat.div_le_of_le_mul ?_
  rw [Nat.mul_comm denominator]
  exact Nat.mul_le_mul_left amount hpart

/-- What is left of an amount without a part of it is the rest, rounded up. -/
theorem sub_fee_eq_ceilDiv (hpos : 0 < denominator) (hpart : feeBps ≤ denominator) :
    amount - amount * feeBps / denominator = amount * (denominator - feeBps) ⌈/⌉ denominator := by
  have hle : amount * feeBps / denominator ≤ amount := fee_le hpart
  have hdivided := Nat.div_add_mod' (amount * feeBps) denominator
  have hmod := Nat.mod_lt (amount * feeBps) hpos
  have hwhole : amount * (denominator - feeBps) + amount * feeBps = amount * denominator := by
    rw [← Nat.mul_add, Nat.sub_add_cancel hpart]
  rw [Nat.ceilDiv_eq_add_pred_div]
  generalize amount * feeBps / denominator = fee at *
  have hrest : (amount - fee) * denominator + fee * denominator = amount * denominator := by
    rw [← Nat.add_mul, Nat.sub_add_cancel hle]
  refine (Nat.div_eq_of_lt_le ?_ ?_).symm
  · omega
  · rw [Nat.succ_mul]
    omega

/-- Something is left of something if the part is not the whole. -/
theorem fee_lt (hamount : 0 < amount) (hpart : feeBps < denominator) : amount * feeBps / denominator < amount := by
  refine Nat.div_lt_of_lt_mul ?_
  rw [Nat.mul_comm denominator]
  exact Nat.mul_lt_mul_of_pos_left hpart hamount

/-- More is left of more. -/
theorem sub_fee_le_sub_fee (hpos : 0 < denominator) (hpart : feeBps ≤ denominator) (h : amount ≤ more) :
    amount - amount * feeBps / denominator ≤ more - more * feeBps / denominator := by
  rw [sub_fee_eq_ceilDiv hpos hpart, sub_fee_eq_ceilDiv hpos hpart, Nat.ceilDiv_eq_add_pred_div,
    Nat.ceilDiv_eq_add_pred_div]
  have hscaled := Nat.mul_le_mul_right (denominator - feeBps) h
  exact Nat.div_le_div_right (by omega)

/-- What is left of two amounts is what is left of their sum, or one more. -/
theorem sub_fee_add (hpos : 0 < denominator) (hpart : feeBps ≤ denominator) (a b : Nat) :
    let left (n : Nat) := n - n * feeBps / denominator
    left a + left b = left (a + b) ∨ left a + left b = left (a + b) + 1 := by
  have ha : a * feeBps / denominator ≤ a := fee_le hpart
  have hb : b * feeBps / denominator ≤ b := fee_le hpart
  have hsum := Nat.add_div (a := a * feeBps) (b := b * feeBps) hpos
  rw [← Nat.add_mul] at hsum
  dsimp only
  split at hsum <;> omega

end

/-! ## The fee of an amount -/

/-- How the fee on an amount can come out. -/
inductive Charged (oft : Address) (amount feeBps denominator : Uint256) : Except Cause Uint256 → Prop
  /-- The fee is in parts of nothing. -/
  | zeroDenominator (h : denominator.val = 0) : Charged oft amount feeBps denominator (.error (.zeroDenominator oft))
  /-- The parts of the amount have more than 256 bits. -/
  | overflow (hpos : 0 < denominator.val) (h : Word.count ≤ amount.val * feeBps.val) :
    Charged oft amount feeBps denominator (.error .feeOverflow)
  /-- The fee is more than the amount. -/
  | exceeds {fee : Uint256} (hpos : 0 < denominator.val) (hfits : amount.val * feeBps.val < Word.count)
    (hfee : fee.val = amount.val * feeBps.val / denominator.val) (h : amount.val < fee.val) :
    Charged oft amount feeBps denominator (.error (.feeExceedsAmount oft fee amount feeBps denominator))
  /-- What arrives and the fee make up the amount. -/
  | arrives {received : Uint256} (hpos : 0 < denominator.val) (hfits : amount.val * feeBps.val < Word.count)
    (h : received.val + amount.val * feeBps.val / denominator.val = amount.val) :
    Charged oft amount feeBps denominator (.ok received)

/-- The amount cannot be charged. -/
def Refused (amount feeBps denominator : Uint256) : Prop :=
  denominator.val = 0 ∨ Word.count ≤ amount.val * feeBps.val ∨ amount.val < amount.val * feeBps.val / denominator.val

section

variable {oft : Address} {amount feeBps denominator received : Uint256} {result : Except Cause Uint256}

/-- The fee comes out in one of the ways there are. -/
theorem charged_afterFee (oft : Address) (amount feeBps denominator : Uint256) :
    Charged oft amount feeBps denominator (afterFee oft amount feeBps denominator) := by
  unfold afterFee
  split
  next hzero => exact .zeroDenominator hzero
  next hzero =>
    have hpos := Nat.pos_of_ne_zero hzero
    rcases Nat.lt_or_ge (amount.val * feeBps.val) Word.count with hfits | hwide
    · obtain ⟨product, hproduct, hvalue⟩ := Uint256.mul?_of_lt hfits
      have hfee : (product.div denominator).val = amount.val * feeBps.val / denominator.val := by
          rw [Uint256.val_div, hvalue]
      rw [hproduct]
      dsimp only
      rcases Nat.lt_or_ge amount.val (product.div denominator).val with hlt | hle
      · rw [Uint256.sub?_of_lt hlt]
        exact .exceeds hpos hfits hfee hlt
      · obtain ⟨rest, hrest, hsum⟩ := Uint256.sub?_of_le hle
        rw [hrest]
        exact .arrives hpos hfits (by rw [← hfee, hsum])
    · rw [Uint256.mul?_of_le hwide]
      exact .overflow hpos hwide

/-- The plan fails exactly for an amount that cannot be charged. -/
theorem Charged.refused_iff (h : Charged oft amount feeBps denominator result) :
    (∃ cause, result = .error cause) ↔ Refused amount feeBps denominator := by
  unfold Refused
  cases h with
  | zeroDenominator hzero => simp [hzero]
  | overflow hpos hproduct => simp [hproduct]
  | exceeds hpos hfits hfee hlt =>
    rw [hfee] at hlt
    simp [hlt]
  | arrives hpos hfits hsum =>
    simp only [reduceCtorEq, exists_false, false_iff]
    omega

/-- An amount that is charged has a product with the fee that fits a word. -/
theorem Charged.fits (h : Charged oft amount feeBps denominator (.ok received)) :
    amount.val * feeBps.val < Word.count := by
  cases h with
  | arrives hpos hfits hsum => exact hfits

/-- What arrives and the fee, rounded down, are the amount. -/
theorem Charged.sum_eq (h : Charged oft amount feeBps denominator (.ok received)) :
    received.val + amount.val * feeBps.val / denominator.val = amount.val := by
  cases h with
  | arrives hpos hfits hsum => exact hsum

end

end CheckpointRelay.Plan
