import CheckpointRelay.Hash.Sha256
import CheckpointRelay.Text.Quoted
import CheckpointRelay.Text.Utf8

/-!
# Base58 with a checksum

A byte string is written as its number in base 58, after one `1` for each zero octet at its front. `encodeCheck` appends
the first four octets of the double SHA-256 of a payload; `decodeCheck` gives the payload back only if they match.
-/

namespace CheckpointRelay.Base58

/-- The fifty-eight digits, least first. -/
def alphabet : List Char :=
  "123456789ABCDEFGHJKLMNPQRSTUVWXYZabcdefghijkmnopqrstuvwxyz".toList

/-- The digit of a number below fifty-eight. -/
def digit (n : Nat) : Char :=
  alphabet.getD n '1'

/-- The number of a digit given by its octet. -/
def digitValue? (octet : UInt8) : Option Nat :=
  alphabet.idxOf? (Char.ofNat octet.toNat)

/-- The digits of a number, without leading zeros. -/
def digits (n : Nat) : List Char :=
  if _h : n = 0 then [] else digits (n / 58) ++ [digit (n % 58)]
termination_by n
decreasing_by omega

/-- The octets of a number, without leading zeros. -/
def octets (n : Nat) : Bytes :=
  if _h : n = 0 then [] else octets (n / 256) ++ [UInt8.ofNat n]
termination_by n
decreasing_by omega

/-- The written form of a byte string. -/
def encodeChars (b : Bytes) : List Char :=
  List.replicate (b.takeWhile (· = 0)).length '1' ++ digits (Bytes.toNat b)

/-- Why a text is not the checked form of a payload. -/
inductive Error
  /-- The octet at this position is not ASCII. -/
  | notAscii (position : Nat)
  /-- The octet at this position is no digit. -/
  | badDigit (octet : UInt8) (position : Nat)
  /-- There are fewer than four octets. -/
  | noChecksum
  /-- The last four octets are not the checksum of the others. -/
  | wrongChecksum (computed given : Bytes)
  deriving DecidableEq, Repr

/-- Octets as decimal numbers in brackets. -/
def octetList (b : Bytes) : String :=
  "[" ++ ", ".intercalate (b.map fun octet => toString octet.toNat) ++ "]"

/-- The wording of a reading error. -/
def Error.message : Error → String
  | .notAscii position => s!"provided string contained non-ascii character starting at byte {position}"
  | .badDigit octet position =>
    s!"provided string contained invalid character {Text.character (Char.ofNat octet.toNat)} at byte {position}"
  | .noChecksum => "provided string is too small to contain a checksum"
  | .wrongChecksum computed given =>
    s!"invalid checksum, calculated checksum: '{octetList computed}', expected checksum: {octetList given}"

/-- The values of digits that start at `position`. -/
def digitValues (position : Nat) : Bytes → Except Error (List Nat)
  | [] => .ok []
  | octet :: rest => do
    if 128 ≤ octet then throw (.notAscii position)
    match digitValue? octet with
    | none => throw (.badDigit octet position)
    | some n => return n :: (← digitValues (position + 1) rest)

/-- The byte string that digits, given as octets, write. -/
def decodeOctets (text : Bytes) : Except Error Bytes := do
  let values ← digitValues 0 text
  return List.replicate (values.takeWhile (· = 0)).length 0 ++ octets (values.foldl (fun n d => n * 58 + d) 0)

/-- The checksum of a payload. -/
def checksum (payload : Bytes) : Bytes :=
  (Sha256.digest (Sha256.digest payload).bytes).bytes.take 4

/-- The checked form of a payload. -/
def encodeCheck (payload : Bytes) : String :=
  String.ofList (encodeChars (payload ++ checksum payload))

/-- The payload of a checked form. -/
def decodeCheck (s : String) : Except Error Bytes := do
  let all ← decodeOctets (Utf8.encode s)
  if all.length < 4 then throw .noChecksum
  let payload := all.take (all.length - 4)
  let given := all.drop (all.length - 4)
  let computed := checksum payload
  if computed = given then return payload else throw (.wrongChecksum computed given)

end CheckpointRelay.Base58
