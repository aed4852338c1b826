import CheckpointRelay.Hash.Keccak256

/-!
# Keccak-256 in plain numbers

The lanes as rows of natural numbers, for hashes that a proof has to compute. `Shows s r` says that the rows `r` hold
the lanes of the state `s`. Every part of a round keeps it, so the hash of a message of one block is the one computed in
numbers (`bytes_digest`).
-/

namespace CheckpointRelay.Keccak256.Numeric

/-- The lanes of a state, row by row. -/
abbrev Rows := List (List Nat)

/-- The lane in a column and a row, both taken modulo five. -/
def lane (r : Rows) (x y : Nat) : Nat :=
  (r.getD (y % 5) []).getD (x % 5) 0

/-- A row given by its number in each column. -/
def row (f : Nat → Nat) : List Nat :=
  [f 0, f 1, f 2, f 3, f 4]

/-- Rows given by their lane in each column and row. -/
def ofLanes (f : (x y : Nat) → Nat) : Rows :=
  [row (f · 0), row (f · 1), row (f · 2), row (f · 3), row (f · 4)]

/-- Rotation to the left, in 64 bits. -/
def rotl (x n : Nat) : Nat :=
  (x <<< (n % 64)) % UInt64.size ||| x >>> ((64 - n) % 64)

/-- How far each lane turns. -/
def offsets : Rows :=
  [[0, 1, 62, 28, 27], [36, 44, 6, 55, 20], [3, 10, 43, 25, 39], [41, 45, 15, 21, 8], [18, 2, 61, 56, 14]]

/-- The parities of the columns. -/
def parity (r : Rows) : List Nat :=
  row fun x => lane r x 0 ^^^ lane r x 1 ^^^ lane r x 2 ^^^ lane r x 3 ^^^ lane r x 4

/-- Every lane takes in the parity of two neighbouring columns. -/
def diffuse (r : Rows) : Rows :=
  let parity := parity r
  ofLanes fun x y => lane r x y ^^^ parity.getD ((x + 4) % 5) 0 ^^^ rotl (parity.getD ((x + 1) % 5) 0) 1

/-- Every lane is rotated and put in another place. -/
def scatter (r : Rows) : Rows :=
  ofLanes fun x y => rotl (lane r (x + 3 * y) x) (lane offsets (x + 3 * y) x)

/-- Every lane is combined with the two that follow in its row. -/
def combine (r : Rows) : Rows :=
  ofLanes fun x y => lane r x y ^^^ ((UInt64.size - 1 - lane r (x + 1) y) &&& lane r (x + 2) y)

/-- One round of the permutation, on rows. -/
def round (r : Rows) (constant : Nat) : Rows :=
  let t := combine (scatter (diffuse r))
  ofLanes fun x y => if x + 5 * y = 0 then lane t x y ^^^ constant else lane t x y

/-- The permutation, on rows. -/
def permute (r : Rows) : Rows :=
  (roundConstants.map UInt64.toNat).foldl round r

/-- The rows after a block is put into rows of zeros and the lanes are permuted. -/
def mix (block : Bytes) : Rows :=
  permute (ofLanes fun x y => littleEndian ((block.drop (8 * (x + 5 * y))).take 8) % UInt64.size)

/-- The octets of the hash of a message of one block. -/
def digest (message : Bytes) : Bytes :=
  let r := mix (padded message)
  [lane r 0 0, lane r 1 0, lane r 2 0, lane r 3 0].flatMap fun n => (Bytes.ofNat 8 n).reverse

/-! ## Rows hold the lanes of a state -/

/-- The rows hold the lanes of the state. -/
def Shows (s : State) (r : Rows) : Prop :=
  ∀ x y, lane r x y = (Keccak256.lane s x y).toNat

/-- Column `x` of a row is its value at `x`. -/
theorem getD_row (f : Nat → Nat) {x : Nat} (h : x < 5) : (row f).getD x 0 = f x := by
  match x, h with
  | 0, _ | 1, _ | 2, _ | 3, _ | 4, _ => rfl

/-- A lane of rows given by a function is the function's value, places counted round. -/
theorem lane_ofLanes (f : (x y : Nat) → Nat) (x y : Nat) : lane (ofLanes f) x y = f (x % 5) (y % 5) := by
  have hrow : (ofLanes f).getD (y % 5) [] = row (f · (y % 5)) := by
    have h : y % 5 < 5 := Nat.mod_lt y (by decide)
    match y % 5, h with
    | 0, _ | 1, _ | 2, _ | 3, _ | 4, _ => rfl
  rw [lane, hrow, getD_row _ (Nat.mod_lt x (by decide))]

/-- Places outside the five by five wrap round. -/
theorem lane_mod (r : Rows) (x y : Nat) : lane r (x % 5) (y % 5) = lane r x y := by
  simp only [lane, Nat.mod_mod]

/-- The lanes of a state given by them. -/
theorem lane_state (f : (x y : Nat) → UInt64) (x y : Nat) :
    Keccak256.lane (Keccak256.ofLanes f) x y = f (x % 5) (y % 5) := by
  have hx : (x % 5 + 5 * (y % 5)) % 5 = x % 5 := by omega
  have hy : (x % 5 + 5 * (y % 5)) / 5 = y % 5 := by omega
  simp only [Keccak256.lane, Keccak256.ofLanes, Vector.getElem_ofFn, hx, hy]

/-- Rows and a state that are given lane by lane. -/
theorem shows_ofLanes {f : (x y : Nat) → Nat} {g : (x y : Nat) → UInt64}
    (h : ∀ x y, x < 5 → y < 5 → f x y = (g x y).toNat) :
    Shows (Keccak256.ofLanes g) (ofLanes f) := by
  intro x y
  rw [lane_ofLanes, lane_state]
  exact h _ _ (Nat.mod_lt x (by decide)) (Nat.mod_lt y (by decide))

/-- Rotating the machine word rotates its number. -/
theorem toNat_rotl (x n : UInt64) (h : n.toNat ≤ 64) : (Keccak256.rotl x n).toNat = rotl x.toNat n.toNat := by
  have hsub : (64 - n).toNat = 64 - n.toNat := UInt64.toNat_sub_of_le _ _ h
  simp only [Keccak256.rotl, rotl, UInt64.toNat_or, UInt64.toNat_shiftLeft, UInt64.toNat_shiftRight, hsub]

/-! ## The parts of a round -/

variable {s : State} {r : Rows}

/-- The parity of a column is the exclusive or of its five lanes. -/
theorem getD_parity (h : Shows s r) {x : Nat} (hx : x < 5) : (parity r).getD x 0 =
    (Keccak256.lane s x 0 ^^^ Keccak256.lane s x 1 ^^^ Keccak256.lane s x 2 ^^^ Keccak256.lane s x 3 ^^^
      Keccak256.lane s x 4).toNat := by
  rw [parity, getD_row _ hx]
  simp only [UInt64.toNat_xor, h _ _]

/-- Rows that show a state show it diffused when they are diffused. -/
theorem shows_diffuse (h : Shows s r) : Shows (Keccak256.diffuse s) (diffuse r) := by
  unfold Keccak256.diffuse diffuse
  refine shows_ofLanes fun x y _ _ => ?_
  rw [getD_parity h (Nat.mod_lt _ (by decide)), getD_parity h (Nat.mod_lt _ (by decide)), h x y]
  simp only [UInt64.toNat_xor, Vector.getElem_ofFn]
  rw [toNat_rotl _ _ (by decide)]
  simp only [UInt64.toNat_xor]
  rfl

/-- The lanes turn alike. No lane turns all the way round. -/
theorem shows_offsets (x y : Nat) :
    lane offsets x y = (Keccak256.lane Keccak256.offsets x y).toNat ∧
    (Keccak256.lane Keccak256.offsets x y).toNat ≤ 64 := by
  have hall : ∀ x < 5, ∀ y < 5, lane offsets x y = (Keccak256.lane Keccak256.offsets x y).toNat ∧
      (Keccak256.lane Keccak256.offsets x y).toNat ≤ 64 := by decide
  have hmod : Keccak256.lane Keccak256.offsets (x % 5) (y % 5) = Keccak256.lane Keccak256.offsets x y := by
    simp only [Keccak256.lane, Nat.mod_mod]
  have h := hall (x % 5) (Nat.mod_lt x (by decide)) (y % 5) (Nat.mod_lt y (by decide))
  rwa [lane_mod, hmod] at h

/-- Rows that show a state show it scattered when they are scattered. -/
theorem shows_scatter (h : Shows s r) : Shows (Keccak256.scatter s) (scatter r) := by
  refine shows_ofLanes fun x y _ _ => ?_
  obtain ⟨hoffset, hle⟩ := shows_offsets (x + 3 * y) x
  rw [toNat_rotl _ _ hle, h, hoffset]

/-- Rows that show a state show it combined when they are combined. -/
theorem shows_combine (h : Shows s r) : Shows (Keccak256.combine s) (combine r) := by
  refine shows_ofLanes fun x y _ _ => ?_
  simp only [UInt64.toNat_xor, UInt64.toNat_and, UInt64.toNat_not, h _ _]

/-- One round on rows is one round on the lanes they show. -/
theorem shows_round (h : Shows s r) (constant : UInt64) :
    Shows (Keccak256.round s constant) (round r constant.toNat) := by
  have ht := shows_combine (shows_scatter (shows_diffuse h))
  unfold Keccak256.round round
  generalize Keccak256.combine (Keccak256.scatter (Keccak256.diffuse s)) = t at ht
  generalize combine (scatter (diffuse r)) = q at ht
  intro x y
  rw [lane_ofLanes, lane_mod, ht]
  unfold Keccak256.lane
  rw [Vector.getElem_set]
  by_cases hfirst : x % 5 + 5 * (y % 5) = 0
  · simp only [hfirst, if_true, UInt64.toNat_xor]
  · rw [if_neg hfirst, if_neg (Ne.symm hfirst)]

/-- Rounds one after the other on rows are the rounds on the lanes they show. -/
theorem shows_foldl_round (h : Shows s r) (constants : List UInt64) :
    Shows (constants.foldl Keccak256.round s) ((constants.map UInt64.toNat).foldl round r) := by
  induction constants generalizing s r with
  | nil => exact h
  | cons constant rest ih =>
    rw [List.foldl_cons, List.map_cons, List.foldl_cons]
    exact ih (shows_round h constant)

/-! ## Hashes -/

/-- Mixing a block into the empty state is done on rows as on lanes. -/
theorem shows_mix (block : Bytes) : Shows (Keccak256.mix (Vector.replicate 25 0) block) (mix block) := by
  unfold Keccak256.mix mix Keccak256.permute permute
  refine shows_foldl_round ?_ roundConstants
  intro x y
  rw [lane_ofLanes]
  simp only [Keccak256.lane, Vector.getElem_ofFn, Fin.getElem_fin, Vector.getElem_replicate, UInt64.zero_xor]
  rfl

/-- A message shorter than a block is padded to one block. -/
theorem length_padded {message : Bytes} (h : message.length < rate) : (padded message).length = rate := by
  unfold padded
  dsimp only
  rw [Nat.mod_eq_of_lt h]
  unfold rate at *
  split <;> simp only [List.length_append, List.length_cons, List.length_nil, List.length_replicate] <;> omega

/-- Absorbing one block mixes it in. -/
theorem absorb_block {s : State} {block : Bytes} (h : block.length = rate) :
    absorb s block = Keccak256.mix s block := by
  have hne : block ≠ [] := by
    intro hnil
    rw [hnil] at h
    exact absurd h (by decide)
  rw [absorb, dif_neg hne, List.take_of_length_le (Nat.le_of_eq h), List.drop_of_length_le (Nat.le_of_eq h), absorb,
    dif_pos rfl]

/-- The digest is read off the state that absorbed the padded message. -/
theorem bytes_digest_eq (message : Bytes) : (Keccak256.digest message).bytes =
    let s := absorb (Vector.replicate 25 0) (padded message)
    [Keccak256.lane s 0 0, Keccak256.lane s 1 0, Keccak256.lane s 2 0, Keccak256.lane s 3 0].flatMap fun w =>
      (Bytes.ofNat 8 w.toNat).reverse := rfl

/-- A message of one block is hashed in numbers. -/
theorem bytes_digest {message : Bytes} (h : message.length < rate) :
    (Keccak256.digest message).bytes = digest message := by
  have hshows := shows_mix (padded message)
  rw [bytes_digest_eq, digest, absorb_block (length_padded h)]
  generalize Keccak256.mix (Vector.replicate 25 0) (padded message) = s at hshows
  generalize mix (padded message) = r at hshows
  dsimp only
  rw [hshows 0 0, hshows 1 0, hshows 2 0, hshows 3 0]
  rfl

end CheckpointRelay.Keccak256.Numeric
