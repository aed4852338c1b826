import CheckpointRelay.Text.Quoted
import CheckpointRelay.Text.Utf8

/-!
# Hexadecimal text

Octets are written as two lower-case digits each and read in either case. Reading looks at the UTF-8 octets of the text:
an odd number of them is refused first, then the first that is no digit. Main statement: `decode_encode`, what is
written reads back.
-/

namespace CheckpointRelay.Hex

/-- The two digits of an octet. -/
def pair (octet : UInt8) : List Char :=
  [Text.hexDigit (octet.toNat / 16), Text.hexDigit (octet.toNat % 16)]

/-- The digits of a byte string. -/
def encodeChars (b : Bytes) : List Char :=
  b.flatMap pair

/-- The digits of a byte string, as a text. -/
def encode (b : Bytes) : String :=
  String.ofList (encodeChars b)

/-- Why a text is not hexadecimal. -/
inductive Error
  /-- The text has an odd number of octets. -/
  | odd
  /-- The octet at this position is no digit. -/
  | badDigit (octet : UInt8) (position : Nat)
  deriving DecidableEq, Repr

/-- The wording of a reading error; the offending octet is shown as the character of its number. -/
def Error.message : Error → String
  | .odd => "Odd number of digits"
  | .badDigit octet position => s!"Invalid character {Text.character (Char.ofNat octet.toNat)} at position {position}"

/-- The value of a digit of either case. -/
def digitValue? (octet : UInt8) : Option Nat :=
  if 48 ≤ octet && octet ≤ 57 then some (octet.toNat - 48)
  else if 97 ≤ octet && octet ≤ 102 then some (octet.toNat - 87)
  else if 65 ≤ octet && octet ≤ 70 then some (octet.toNat - 55)
  else none

/-- The value of the digit at a position. -/
def digitAt (octet : UInt8) (position : Nat) : Except Error Nat :=
  match digitValue? octet with
  | some n => .ok n
  | none => .error (.badDigit octet position)

/-- The octets that pairs of digits write, the first pair standing at `position`. -/
def decodePairs (position : Nat) : Bytes → Except Error Bytes
  | high :: low :: rest => do
    let h ← digitAt high position
    let l ← digitAt low (position + 1)
    let octets ← decodePairs (position + 2) rest
    .ok (UInt8.ofNat (h * 16 + l) :: octets)
  | [_] => .error .odd
  | [] => .ok []

/-- The octets that digits, given as octets themselves, write. -/
def decodeOctets (digits : Bytes) : Except Error Bytes :=
  if digits.length % 2 = 1 then .error .odd else decodePairs 0 digits

/-- The octets that a text writes. -/
def decode (s : String) : Except Error Bytes :=
  decodeOctets (Utf8.encode s)

/-- The octets that characters write. -/
def decodeChars (cs : List Char) : Except Error Bytes :=
  decodeOctets (cs.flatMap String.utf8EncodeChar)

/-- Each digit of an octet is one octet itself, and reads back as the half that it stands for. -/
theorem digitValue?_pair (octet : UInt8) :
    (pair octet).flatMap String.utf8EncodeChar =
      [UInt8.ofNat (Text.hexDigit (octet.toNat / 16)).toNat, UInt8.ofNat (Text.hexDigit (octet.toNat % 16)).toNat] ∧
    digitValue? (UInt8.ofNat (Text.hexDigit (octet.toNat / 16)).toNat) = some (octet.toNat / 16) ∧
    digitValue? (UInt8.ofNat (Text.hexDigit (octet.toNat % 16)).toNat) = some (octet.toNat % 16) := by
  have key : ∀ n : Fin 16, String.utf8EncodeChar (Text.hexDigit n.val) = [UInt8.ofNat (Text.hexDigit n.val).toNat] ∧
      digitValue? (UInt8.ofNat (Text.hexDigit n.val).toNat) = some n.val := by decide
  have hlt : octet.toNat < 256 := octet.toNat_lt
  have high := key ⟨octet.toNat / 16, by omega⟩
  have low := key ⟨octet.toNat % 16, by omega⟩
  simp only at high low
  exact ⟨by simp [pair, high.1, low.1], high.2, low.2⟩

/-- Octets are read back from their digits. -/
theorem decodePairs_encodeChars (b : Bytes) (position : Nat) :
    decodePairs position ((encodeChars b).flatMap String.utf8EncodeChar) = .ok b := by
  induction b generalizing position with
  | nil => rfl
  | cons octet rest ih =>
    obtain ⟨hp, hh, hl⟩ := digitValue?_pair octet
    have hlt : octet.toNat < 256 := octet.toNat_lt
    have hval : UInt8.ofNat (octet.toNat / 16 * 16 + octet.toNat % 16) = octet := by
      apply UInt8.toNat_inj.mp
      simp only [UInt8.toNat_ofNat']
      omega
    rw [encodeChars, List.flatMap_cons, List.flatMap_append, hp]
    simp only [List.cons_append, List.nil_append, decodePairs, digitAt, hh, hl]
    change (do let octets ← decodePairs (position + 2) ((encodeChars rest).flatMap String.utf8EncodeChar)
               Except.ok (UInt8.ofNat (octet.toNat / 16 * 16 + octet.toNat % 16) :: octets)) = _
    rw [ih, hval]
    rfl

/-- The octets of the digits of a byte string are twice as many as its own. -/
theorem length_encodeChars (b : Bytes) : ((encodeChars b).flatMap String.utf8EncodeChar).length = 2 * b.length := by
  induction b with
  | nil => rfl
  | cons octet rest ih =>
    rw [encodeChars, List.flatMap_cons, List.flatMap_append, (digitValue?_pair octet).1]
    simp only [encodeChars] at ih
    simp only [List.cons_append, List.nil_append, List.length_cons, ih]
    omega

/-- What is written reads back. -/
theorem decode_encode (b : Bytes) : decode (encode b) = .ok b := by
  have hl := length_encodeChars b
  rw [decode, Utf8.encode, encode, String.toList_ofList, decodeOctets, if_neg (by omega), decodePairs_encodeChars]

end CheckpointRelay.Hex
