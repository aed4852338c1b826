import CheckpointRelay.Bytes

/-!
# Octets, the length of byte strings, and numbers of 256 bits

A number below 256 is the number of its octet. A byte string takes less than half of the addresses of sixty-four bits,
so its positions are numbers of sixty-four bits with room to spare. A product and a difference of numbers of 256 bits
are the plain ones, where there are any.
-/

namespace CheckpointRelay.Bytes

/-- No byte string has as many octets as this. -/
def maxLength : Nat := 0x8000000000000000

/-- A possible length is below `2 ^ 64`. -/
theorem lt_size_of_lt_maxLength {n : Nat} (h : n < maxLength) : n < UInt64.size :=
  Nat.lt_trans h (by decide)

/-- A number below 256 is read back from its octet. -/
theorem toNat_octet {n : Nat} (h : n < 256) : (UInt8.ofNat n).toNat = n := by
  rw [UInt8.toNat_ofNat']
  omega

/-- The number of octets in front of others. -/
theorem toNat_append (front back : Bytes) : toNat (front ++ back) = toNat front * count back.length + toNat back := by
  rcases List.eq_nil_or_concat back with rfl | ⟨back, octet, rfl⟩
  · rw [List.append_nil, List.length_nil, count, Nat.mul_one, toNat_nil, Nat.add_zero]
  · rw [List.concat_eq_append, ← List.append_assoc, toNat_append_singleton, toNat_append_singleton,
      toNat_append front back, List.length_append, List.length_singleton, count, Nat.add_mul, Nat.mul_assoc,
      Nat.add_assoc]
termination_by back.length
decreasing_by simp_all

/-- The first octet is the highest digit. -/
theorem toNat_cons (octet : UInt8) (rest : Bytes) :
    toNat (octet :: rest) = octet.toNat * count rest.length + toNat rest := by
  have hfirst : toNat [octet] = octet.toNat := by simp [toNat]
  rw [← List.singleton_append, toNat_append, hfirst]

/-- There are `256 ^ n` strings of `n` octets. -/
theorem count_eq (n : Nat) : count n = Nat.pow 256 n := by
  induction n with
  | zero => rfl
  | succ n ih => exact congrArg (· * 256) ih

/-- Byte strings of one length tell the numbers that they write. -/
theorem toNat_injective {b b' : Bytes} (hlength : b.length = b'.length) (h : toNat b = toNat b') : b = b' := by
  rw [← ofNat_toNat b, ← ofNat_toNat b', hlength, h]

/-- Blocks of one width, put one after the other, tell what they stand for, if each of them does. -/
theorem flatMap_injective {α : Type} {f : α → Bytes} {width : Nat} (hwidth : 0 < width)
    (hlength : ∀ a, (f a).length = width) (hf : ∀ a a', f a = f a' → a = a') {xs ys : List α}
    (h : xs.flatMap f = ys.flatMap f) : xs = ys := by
  induction xs generalizing ys with
  | nil =>
    cases ys with
    | nil => rfl
    | cons y ys =>
      have hempty : f y = [] := (List.append_eq_nil_iff.mp h.symm).1
      have hy := hlength y
      rw [hempty] at hy
      exact absurd hy (Nat.ne_of_lt hwidth)
  | cons x xs ih =>
    cases ys with
    | nil =>
      have hempty : f x = [] := (List.append_eq_nil_iff.mp h).1
      have hx := hlength x
      rw [hempty] at hx
      exact absurd hx (Nat.ne_of_lt hwidth)
    | cons y ys =>
      obtain ⟨hfirst, hrest⟩ := List.append_inj h ((hlength x).trans (hlength y).symm)
      rw [hf x y hfirst, ih hrest]

end CheckpointRelay.Bytes

namespace CheckpointRelay.Uint256

variable {x y : Uint256}

/-- A product below `2 ^ 256` is computed. -/
theorem mul?_of_lt (h : x.val * y.val < Word.count) :
    ∃ product, x.mul? y = some product ∧ product.val = x.val * y.val :=
  ⟨⟨x.val * y.val, h⟩, dif_pos h, rfl⟩

/-- A product of `2 ^ 256` or more is refused. -/
theorem mul?_of_le (h : Word.count ≤ x.val * y.val) : x.mul? y = none :=
  dif_neg (Nat.not_lt_of_le h)

/-- A difference is computed when nothing is borrowed. -/
theorem sub?_of_le (h : y.val ≤ x.val) : ∃ rest, x.sub? y = some rest ∧ rest.val + y.val = x.val :=
  ⟨⟨x.val - y.val, Nat.lt_of_le_of_lt (Nat.sub_le _ _) x.lt⟩, if_pos h, Nat.sub_add_cancel h⟩

/-- Taking away more than there is is refused. -/
theorem sub?_of_lt (h : x.val < y.val) : x.sub? y = none :=
  if_neg (Nat.not_le_of_lt h)

/-- Division rounds down. -/
@[simp] theorem val_div (x y : Uint256) : (x.div y).val = x.val / y.val := rfl

/-- Decimal digits tell the number. -/
theorem decimal_injective : Function.Injective decimal := by
  intro x y h
  have hdigits : Nat.toDigits 10 x.val = Nat.toDigits 10 y.val := by
    simpa [decimal, Nat.toString_eq_repr] using congrArg String.toList h
  have hvalue := congrArg (Nat.ofDigitChars 10 · 0) hdigits
  exact ext (by simpa using hvalue)

end CheckpointRelay.Uint256
