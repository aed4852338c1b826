import CheckpointRelay.Address

/-!
# Reading contract data

Readers of words and dynamic contents at the places where `Abi.Encode` puts them. Every length and offset is checked
against the data, and positions are numbers of 64 bits: a reader fails with `overflow` instead of computing a position
beyond them.
-/

namespace CheckpointRelay.Abi

/-- Why data cannot be read. -/
inductive DecodeError
  /-- There is no whole word at this position. -/
  | tooShort (position length : Nat)
  /-- A length or an offset is larger than the data. -/
  | tooLarge (value : Uint256) (length : Nat)
  /-- A byte string that starts at this position is longer than the rest of the data. -/
  | overrun (bytes position : Nat)
  /-- The word has other octets than zeros in front of an account. -/
  | notAddress (index : Nat) (word : Word)
  /-- A byte string that should be text is not. -/
  | notText (cause : Utf8.Error)
  /-- A position does not fit 64 bits. -/
  | overflow
  deriving DecidableEq

/-- The wording of a reading error. -/
def DecodeError.message : DecodeError → String
  | .tooShort position length => s!"ABI data too short: need word at {position}, have {length} bytes"
  | .tooLarge value length => s!"ABI length/offset {value.decimal} exceeds data length {length}"
  | .overrun bytes position => s!"ABI bytes of length {bytes} overrun data at {position}"
  | .notAddress index word => s!"ABI word {index} is not an address: 0x{Hex.encode word.bytes}"
  | .notText cause => cause.message
  | .overflow => "position overflow"

/-- A position, if it fits 64 bits. -/
def position (n : Nat) : Except DecodeError Nat :=
  if n < UInt64.size then .ok n else .error .overflow

/-- The word at a position. -/
def wordAt (data : Bytes) (place : Nat) : Except DecodeError Word :=
  if h : place + 32 ≤ data.length then
    .ok ⟨(data.drop place).take 32, by rw [List.length_take, List.length_drop]; omega⟩
  else .error (.tooShort place data.length)

/-- The word of an index. -/
def wordOf (data : Bytes) (index : Nat) : Except DecodeError Word := do
  wordAt data (← position (index * 32))

/-- The number that the word of an index writes. -/
def uint256Of (data : Bytes) (index : Nat) : Except DecodeError Uint256 := do
  return .ofWord (← wordOf data index)

/-- The address that the word of an index writes. -/
def addressOf (data : Bytes) (index : Nat) : Except DecodeError Address := do
  let word ← wordOf data index
  if word.bytes.take 12 = List.replicate 12 0 then
    return ⟨⟨word.bytes.drop 12, by rw [List.length_drop, word.length_eq]⟩⟩
  else throw (.notAddress index word)

/-- The length or offset at a position. -/
def lengthAt (data : Bytes) (place : Nat) : Except DecodeError Nat := do
  let value := Uint256.ofWord (← wordAt data place)
  if value.val ≤ data.length then return value.val else throw (.tooLarge value data.length)

/-- The byte string whose length stands at a position. -/
def bytesAt (data : Bytes) (place : Nat) : Except DecodeError Bytes := do
  let length ← lengthAt data place
  let start ← position (place + 32)
  if start + length ≤ data.length then return (data.drop start).take length else throw (.overrun length start)

/-- The byte string whose offset is the word of an index. -/
def bytesOf (data : Bytes) (index : Nat) : Except DecodeError Bytes := do
  bytesAt data (← lengthAt data (← position (index * 32)))

/-- The text whose offset is the word of an index. -/
def textOf (data : Bytes) (index : Nat) : Except DecodeError String := do
  (Utf8.decode (← bytesOf data index)).mapError .notText

/-- The byte strings whose offsets, counted from `base`, are the `count` words from number `first` after it on. -/
def elements (data : Bytes) (base first : Nat) : (count : Nat) → Except DecodeError (List Bytes)
  | 0 => return []
  | count + 1 => do
    let offset ← lengthAt data (← position (base + first * 32))
    let item ← bytesAt data (← position (base + offset))
    return item :: (← elements data base (first + 1) count)

/-- The array of byte strings whose offset is the word of an index. -/
def bytesArrayOf (data : Bytes) (index : Nat) : Except DecodeError (List Bytes) := do
  let array ← lengthAt data (← position (index * 32))
  let count ← lengthAt data array
  elements data (← position (array + 32)) 0 count

/-- The `count` words from number `first` after position `base` on. -/
def wordElements (data : Bytes) (base first : Nat) : (count : Nat) → Except DecodeError (List Word)
  | 0 => return []
  | count + 1 => do
    let item ← wordAt data (← position (base + first * 32))
    return item :: (← wordElements data base (first + 1) count)

/-- The array of words whose offset is the word of an index. -/
def wordsOf (data : Bytes) (index : Nat) : Except DecodeError (List Word) := do
  let array ← lengthAt data (← position (index * 32))
  let count ← lengthAt data array
  wordElements data array 1 count

end CheckpointRelay.Abi
