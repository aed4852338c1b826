import CheckpointRelay.Bytes

/-!
# Variable-length numbers

A number is written in base 128, least digit first, with the high bit set on every octet but the last. Sixty-four bits
need at most ten octets, of which the tenth is at most one.
-/

namespace CheckpointRelay.Wire

/-- The octets of a number. -/
def varint (n : Nat) : Bytes :=
  if n < 128 then [UInt8.ofNat n] else UInt8.ofNat (n % 128 + 128) :: varint (n / 128)
termination_by n
decreasing_by omega

/-- A value read off the front of `input`, and what is left. -/
structure Taken (input : Bytes) (α : Type) where
  /-- The value. -/
  value : α
  /-- What is left. -/
  rest : Bytes
  shorter : rest.length < input.length

/-- The number whose octets start `input` and are at most `limit`, each worth 128 times the one before; the last of as
many as are allowed is at most one. -/
def readVarint? : (limit : Nat) → (input : Bytes) → Option (Taken input Nat)
  | 0, _ => none
  | _ + 1, [] => none
  | limit + 1, octet :: rest =>
    if octet < 128 then
      if limit = 0 ∧ 1 < octet then none else some ⟨octet.toNat, rest, by simp⟩
    else
      match readVarint? limit rest with
      | none => none
      | some t => some ⟨octet.toNat - 128 + 128 * t.value, t.rest, Nat.lt_succ_of_lt t.shorter⟩

/-- A number is written in one octet at least. -/
theorem varint_ne_nil (n : Nat) : varint n ≠ [] := by
  rw [varint]
  split <;> simp

end CheckpointRelay.Wire
