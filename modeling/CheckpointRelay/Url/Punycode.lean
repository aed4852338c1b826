import CheckpointRelay.Text.Search

/-!
# Punycode

The characters of a label outside ASCII are written behind the others, in ascending order of their code points. Each is
a number: how far to go from the one before, counted over all places in the label. The numbers have digits of base 36
with a threshold at each place, which adapts to the numbers before. Reading goes through the digits once and puts a
character in at the end of each number.
-/

namespace CheckpointRelay.Punycode

/-- The digit of a number below thirty-six. -/
def digit (n : Nat) : Char :=
  if n < 26 then Char.ofNat (97 + n) else Char.ofNat (22 + n)

/-- The value of a digit of either case. -/
def digitValue? (c : Char) : Option Nat :=
  if 'a' ≤ c ∧ c ≤ 'z' then some (c.toNat - 97)
  else if 'A' ≤ c ∧ c ≤ 'Z' then some (c.toNat - 65)
  else if '0' ≤ c ∧ c ≤ '9' then some (c.toNat - 22)
  else none

/-- A digit reads back as its number. -/
theorem digitValue?_digit {n : Nat} (h : n < 36) : digitValue? (digit n) = some n := by
  have key : ∀ m : Fin 36, digitValue? (digit m.val) = some m.val := by decide
  exact key ⟨n, h⟩

/-- The threshold at a place that is `k` from the front, thirty-six to a place. -/
def threshold (bias k : Nat) : Nat :=
  if k ≤ bias then 1 else if bias + 26 ≤ k then 26 else k - bias

/-- A threshold is one at least. -/
theorem threshold_pos (bias k : Nat) : 1 ≤ threshold bias k := by
  unfold threshold
  split
  · exact Nat.le_refl 1
  · split <;> omega

/-- The digits of a number from a place on. -/
def digits (bias k n : Nat) : List Char :=
  if n < threshold bias k then [digit n]
  else digit (threshold bias k + (n - threshold bias k) % (36 - threshold bias k)) ::
    digits bias (k + 36) ((n - threshold bias k) / (36 - threshold bias k))
termination_by n
decreasing_by
  have hp := threshold_pos bias k
  have hq := Nat.div_le_self (n - threshold bias k) (36 - threshold bias k)
  omega

/-- The bias of a number that is scaled down, with the places that it takes. -/
def scale (places n : Nat) : Nat :=
  if 455 < n then scale (places + 36) (n / 35) else places + 36 * n / (n + 38)
termination_by n
decreasing_by omega

/-- The bias after a number, when `written` characters are written. -/
def adapt (first : Bool) (n written : Nat) : Nat :=
  let n := if first then n / 700 else n / 2
  scale 0 (n + n / written)

/-- A label as far as it is written. -/
structure State where
  /-- How far to go from the last character. -/
  distance : Nat := 0
  bias : Nat := 72
  /-- How many characters are written. -/
  written : Nat
  /-- Whether the next number is the first. -/
  first : Bool := true
  output : List Char := []

/-- Passes a character of the label when the characters of code point `n` are written. -/
def State.pass (n : Nat) (s : State) (c : Char) : State :=
  if c.toNat < n then { s with distance := s.distance + 1 }
  else if c.toNat = n then
    { distance := 0, bias := adapt s.first s.distance (s.written + 1), written := s.written + 1, first := false
      output := s.output ++ digits s.bias 36 s.distance }
  else s

/-- Writes the characters of code points in ascending order, all of which are at least `from`. -/
def State.write (label : List Char) : (start : Nat) → List Nat → State → State
  | _, [], s => s
  | start, n :: later, s =>
    let s := label.foldl (State.pass n) { s with distance := s.distance + (n - start) * (s.written + 1) }
    State.write label (n + 1) later { s with distance := s.distance + 1 }

/-- The written form of a label. -/
def encode (label : List Char) : List Char :=
  let basic := label.filter (·.toNat < 128)
  let others := ((label.filter (128 ≤ ·.toNat)).map Char.toNat).eraseDups.mergeSort
  let written := State.write label 128 others { written := basic.length }
  (if basic = [] then [] else basic ++ ['-']) ++ written.output

/-! ## Reading -/

/-- A label as far as it is read. -/
structure Reading where
  label : List Char
  /-- The code point of the last character that was put in. -/
  code : Nat := 128
  /-- The place behind it. -/
  place : Nat := 0
  bias : Nat := 72
  /-- The place, with what the number being read adds to it so far. -/
  distance : Nat := 0
  /-- What the next digit counts. -/
  weight : Nat := 1
  /-- Where in its number the next digit stands, thirty-six to a place. -/
  k : Nat := 36

/-- Puts in the character that a number leads to, unless there is none of that code point. -/
def Reading.insert? (r : Reading) (distance : Nat) : Option Reading :=
  let places := r.label.length + 1
  let code := r.code + distance / places
  let place := distance % places
  if code.isValidChar then
    some {
      label := r.label.insertIdx place (Char.ofNat code), code, place := place + 1
      bias := adapt (r.place = 0) (distance - r.place) places, distance := place + 1 }
  else none

/-- Reads a digit. One below its threshold ends the number. Numbers have thirty-two bits. -/
def Reading.step? (r : Reading) (c : Char) : Option Reading := do
  let n ← digitValue? c
  let distance := r.distance + n * r.weight
  if UInt32.size ≤ distance then none
  else if n < threshold r.bias r.k then r.insert? distance
  else
    let weight := r.weight * (36 - threshold r.bias r.k)
    if UInt32.size ≤ weight then none else some { r with distance, weight, k := r.k + 36 }

/-- The label that a written form has; what stands before the last dash is in the label as it is. -/
def decode (written : List Char) : Option (List Char) := do
  let (basic, digits) ← match Text.cut ['-'] written.reverse with
    | (_, some []) => none
    | (back, some front) => some (front.reverse, back.reverse)
    | (_, none) => some ([], written)
  let read ← digits.foldlM Reading.step? { label := basic }
  if read.k = 36 then some read.label else none

end CheckpointRelay.Punycode
