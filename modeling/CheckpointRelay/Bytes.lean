/-!
# Byte strings, words and 256-bit numbers

A byte string is a list of octets, and `Octets n` is one of exactly `n`. Numbers are written big-endian. The main
statements: `Bytes.toNat_ofNat` (a number that fits its width reads back), `Bytes.ofNat_toNat` (and so does every byte
string), hence `Uint256.ofWord_toWord` and `Uint256.toWord_ofWord`.
-/

namespace CheckpointRelay

/-- A string of octets. -/
abbrev Bytes := List UInt8

namespace Bytes

/-- How many byte strings of a length there are. -/
def count : (width : Nat) → Nat
  | 0 => 1
  | width + 1 => count width * 256

/-- The last `width` big-endian digits, base 256, of a number. -/
def ofNat : (width : Nat) → Nat → Bytes
  | 0, _ => []
  | width + 1, n => ofNat width (n / 256) ++ [UInt8.ofNat n]

/-- The number that a byte string writes in base 256, most significant octet first. -/
def toNat (b : Bytes) : Nat :=
  b.foldl (fun n octet => n * 256 + octet.toNat) 0

/-- A number written at a width has that width. -/
@[simp] theorem length_ofNat (width n : Nat) : (ofNat width n).length = width := by
  induction width generalizing n with
  | zero => rfl
  | succ width ih => simp [ofNat, ih]

/-- No octets spell zero. -/
@[simp] theorem toNat_nil : toNat [] = 0 := rfl

/-- A last octet is the lowest digit to base 256. -/
@[simp] theorem toNat_append_singleton (b : Bytes) (octet : UInt8) :
    toNat (b ++ [octet]) = toNat b * 256 + octet.toNat := by
  simp [toNat]

/-- A number below `256 ^ width` is read back from its `width` octets. -/
theorem toNat_ofNat {width n : Nat} (h : n < count width) : toNat (ofNat width n) = n := by
  induction width generalizing n with
  | zero => simp [count] at h; simp [ofNat, h]
  | succ width ih =>
    have hq : n / 256 < count width := Nat.div_lt_of_lt_mul (by rw [count] at h; omega)
    have hd : (UInt8.ofNat n).toNat = n % 256 := by simp
    rw [ofNat, toNat_append_singleton, ih hq, hd]
    omega

/-- Writing a number with one more digit at the end writes the digit behind the rest. -/
theorem ofNat_append_octet (width : Nat) (n : Nat) (octet : UInt8) :
    ofNat (width + 1) (n * 256 + octet.toNat) = ofNat width n ++ [octet] := by
  have hlt : octet.toNat < 256 := octet.toNat_lt
  have hq : (n * 256 + octet.toNat) / 256 = n := by omega
  have hd : UInt8.ofNat (n * 256 + octet.toNat) = octet := by
    apply UInt8.toNat_inj.mp
    simp only [UInt8.toNat_ofNat']
    omega
  rw [ofNat, hq, hd]

/-- Every byte string is the writing of its number at its own length. -/
theorem ofNat_toNat (b : Bytes) : ofNat b.length (toNat b) = b := by
  rcases List.eq_nil_or_concat b with rfl | ⟨front, octet, rfl⟩
  · rfl
  · rw [List.concat_eq_append, List.length_append, List.length_singleton, toNat_append_singleton, ofNat_append_octet,
      ofNat_toNat front]
termination_by b.length
decreasing_by simp_all

/-- A string of octets spells a number below 256 to its length. -/
theorem toNat_lt (b : Bytes) : toNat b < count b.length := by
  rcases List.eq_nil_or_concat b with rfl | ⟨front, octet, rfl⟩
  · simp [count]
  · have ih := toNat_lt front
    have hlt : octet.toNat < 256 := octet.toNat_lt
    rw [List.concat_eq_append, List.length_append, List.length_singleton, toNat_append_singleton, count]
    omega
termination_by b.length
decreasing_by simp_all

end Bytes

/-- A byte string of exactly `n` octets. -/
structure Octets (n : Nat) where
  /-- The octets themselves. -/
  bytes : Bytes
  length_eq : bytes.length = n
  deriving DecidableEq

namespace Octets

/-- Fixed-length strings with the same octets are the same. -/
@[ext] theorem ext {n : Nat} {a b : Octets n} (h : a.bytes = b.bytes) : a = b := by
  cases a; cases b; simp_all

/-- A byte string as one of exactly `n` octets, if it has that length. -/
def ofBytes? (n : Nat) (b : Bytes) : Option (Octets n) :=
  if h : b.length = n then some ⟨b, h⟩ else none

/-- The last `n` big-endian digits of a number. -/
def ofNat (n value : Nat) : Octets n :=
  ⟨Bytes.ofNat n value, Bytes.length_ofNat n value⟩

/-- The number these octets write, big-endian. -/
def toNat {n : Nat} (o : Octets n) : Nat :=
  Bytes.toNat o.bytes

/-- A number that fits `n` octets is read back from them. -/
theorem toNat_ofNat {n value : Nat} (h : value < Bytes.count n) : (ofNat n value).toNat = value :=
  Bytes.toNat_ofNat h

/-- Writing the number that `n` octets spell gives the octets back. -/
theorem ofNat_toNat {n : Nat} (o : Octets n) : ofNat n o.toNat = o := by
  obtain ⟨b, rfl⟩ := o
  exact ext (Bytes.ofNat_toNat b)

/-- The octets of a fixed-length string are taken as that string. -/
theorem ofBytes?_bytes {n : Nat} (o : Octets n) : ofBytes? n o.bytes = some o := by
  simp [ofBytes?, o.length_eq]

end Octets

/-- Thirty-two octets: a storage word, a digest, a salt or a chain tip. -/
abbrev Word := Octets 32

/-- The number of words, which have 256 bits. -/
def Word.count : Nat := 0x10000000000000000000000000000000000000000000000000000000000000000

/-- There are as many words as strings of 32 octets. -/
theorem Word.count_eq : Bytes.count 32 = Word.count := by
  decide

/-- An unsigned number of 256 bits. -/
structure Uint256 where
  /-- The number. -/
  val : Nat
  lt : val < Word.count
  deriving DecidableEq

namespace Uint256

/-- Unsigned numbers of the same value are the same. -/
@[ext] theorem ext {a b : Uint256} (h : a.val = b.val) : a = b := by
  cases a; cases b; simp_all

/-- A number, if it fits 256 bits. -/
def ofNat? (n : Nat) : Option Uint256 :=
  if h : n < Word.count then some ⟨n, h⟩ else none

/-- Zero. -/
def zero : Uint256 := ⟨0, by decide⟩

/-- One. -/
def one : Uint256 := ⟨1, by decide⟩

/-- The number of a word is below `2 ^ 256`. -/
theorem toNat_word_lt (w : Word) : w.toNat < Word.count := by
  have h := Bytes.toNat_lt w.bytes
  rw [w.length_eq, Word.count_eq] at h
  unfold Octets.toNat
  exact h

/-- The number as a big-endian word. -/
def toWord (x : Uint256) : Word :=
  Octets.ofNat 32 x.val

/-- The number that a word writes big-endian. -/
def ofWord (w : Word) : Uint256 :=
  ⟨w.toNat, toNat_word_lt w⟩

/-- Reading a word as a number reads its octets, the highest first. -/
theorem val_ofWord (w : Word) : (ofWord w).val = w.toNat := rfl

/-- Writing a number as a word writes its 32 octets, the highest first. -/
theorem toWord_eq (x : Uint256) : x.toWord = Octets.ofNat 32 x.val := rfl

/-- A number written as a word is read back. -/
theorem ofWord_toWord (x : Uint256) : ofWord x.toWord = x := by
  apply ext
  rw [val_ofWord, toWord_eq, Octets.toNat_ofNat (by rw [Word.count_eq]; exact x.lt)]

/-- A word read as a number is written back. -/
theorem toWord_ofWord (w : Word) : toWord (ofWord w) = w := by
  have h := Octets.ofNat_toNat w
  rwa [toWord_eq, val_ofWord]

/-- The product, unless it needs more than 256 bits. -/
def mul? (x y : Uint256) : Option Uint256 :=
  ofNat? (x.val * y.val)

/-- The difference, unless it is below zero. -/
def sub? (x y : Uint256) : Option Uint256 :=
  if y.val ≤ x.val then some ⟨x.val - y.val, Nat.lt_of_le_of_lt (Nat.sub_le _ _) x.lt⟩ else none

/-- The quotient rounded down; zero when the divisor is zero, a case callers rule out. -/
def div (x y : Uint256) : Uint256 :=
  ⟨x.val / y.val, Nat.lt_of_le_of_lt (Nat.div_le_self _ _) x.lt⟩

/-- The number before this one, and zero before zero. -/
def pred (x : Uint256) : Uint256 :=
  ⟨x.val - 1, Nat.lt_of_le_of_lt (Nat.sub_le _ _) x.lt⟩

/-- The number in decimal digits. -/
def decimal (x : Uint256) : String :=
  toString x.val

end Uint256

end CheckpointRelay
