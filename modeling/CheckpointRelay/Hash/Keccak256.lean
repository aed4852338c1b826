import CheckpointRelay.Bytes

/-!
# Keccak-256

The hash that contracts use for selectors, topics and account addresses: the sponge of FIPS 202 with the padding of the
first Keccak submission. The state has five by five lanes of 64 bits, and the lane in column `x` of row `y` has the
number `x + 5 y`.
-/

namespace CheckpointRelay.Keccak256

/-- The twenty-five lanes of the state. -/
abbrev State := Vector UInt64 25

/-- The lane in a column and a row, both taken modulo five. -/
def lane (s : State) (x y : Nat) : UInt64 :=
  s[x % 5 + 5 * (y % 5)]

/-- A state given by its lane in each column and row. -/
def ofLanes (f : (x y : Nat) → UInt64) : State :=
  Vector.ofFn fun i : Fin 25 => f (i.val % 5) (i.val / 5)

/-- Rotation to the left. -/
def rotl (x : UInt64) (n : UInt64) : UInt64 :=
  (x <<< n) ||| (x >>> (64 - n))

/-- How far each lane turns. -/
def offsets : State :=
  #v[0, 1, 62, 28, 27, 36, 44, 6, 55, 20, 3, 10, 43, 25, 39, 41, 45, 15, 21, 8, 18, 2, 61, 56, 14]

/-- The constant that each round adds to the first lane. -/
def roundConstants : List UInt64 :=
  [0x0000000000000001, 0x0000000000008082, 0x800000000000808a, 0x8000000080008000,
   0x000000000000808b, 0x0000000080000001, 0x8000000080008081, 0x8000000000008009,
   0x000000000000008a, 0x0000000000000088, 0x0000000080008009, 0x000000008000000a,
   0x000000008000808b, 0x800000000000008b, 0x8000000000008089, 0x8000000000008003,
   0x8000000000008002, 0x8000000000000080, 0x000000000000800a, 0x800000008000000a,
   0x8000000080008081, 0x8000000000008080, 0x0000000080000001, 0x8000000080008008]

/-- Every lane takes in the parity of two neighbouring columns. -/
def diffuse (s : State) : State :=
  let parity : Vector UInt64 5 := Vector.ofFn fun x : Fin 5 =>
    lane s x.val 0 ^^^ lane s x.val 1 ^^^ lane s x.val 2 ^^^ lane s x.val 3 ^^^ lane s x.val 4
  ofLanes fun x y => lane s x y ^^^ parity[(x + 4) % 5] ^^^ rotl parity[(x + 1) % 5] 1

/-- Every lane turns and moves to its new place. -/
def scatter (s : State) : State :=
  ofLanes fun x y => rotl (lane s (x + 3 * y) x) (lane offsets (x + 3 * y) x)

/-- Every lane is combined with the next two of its row. -/
def combine (s : State) : State :=
  ofLanes fun x y => lane s x y ^^^ (~~~lane s (x + 1) y &&& lane s (x + 2) y)

/-- One round of the permutation. -/
def round (s : State) (constant : UInt64) : State :=
  let t := combine (scatter (diffuse s))
  t.set 0 (t[0] ^^^ constant)

/-- The permutation. -/
def permute (s : State) : State :=
  roundConstants.foldl round s

/-- The number of octets that a block carries. -/
def rate : Nat := 136

/-- The number that octets write, least significant first. -/
def littleEndian (b : Bytes) : Nat :=
  Bytes.toNat b.reverse

/-- The state after a block is added to its first lanes and the lanes are permuted. -/
def mix (s : State) (block : Bytes) : State :=
  permute (Vector.ofFn fun i : Fin 25 => s[i] ^^^ UInt64.ofNat (littleEndian ((block.drop (8 * i.val)).take 8)))

/-- The message, a one bit at the start of the padding and another at its end, together whole blocks. -/
def padded (message : Bytes) : Bytes :=
  let room := rate - message.length % rate
  if room = 1 then message ++ [0x81] else message ++ 0x01 :: List.replicate (room - 2) 0 ++ [0x80]

/-- The state after all blocks of a padded message. -/
def absorb (s : State) (blocks : Bytes) : State :=
  if _h : blocks = [] then s else absorb (mix s (blocks.take rate)) (blocks.drop rate)
termination_by blocks.length
decreasing_by
  have := List.length_pos_iff.mpr _h
  simp only [List.length_drop, rate]
  omega

/-- The hash of a message. -/
def digest (message : Bytes) : Word :=
  let s := absorb (Vector.replicate 25 0) (padded message)
  ⟨[s[0], s[1], s[2], s[3]].flatMap fun w => (Bytes.ofNat 8 w.toNat).reverse, by simp⟩

end CheckpointRelay.Keccak256
