import CheckpointRelay.Wire.Field

/-!
# Encoded messages

A message type is read by taking in one field at a time. Later occurrences of a field replace or extend earlier ones,
and fields that the type does not know are skipped. A nested message stands behind its length; its last field may not
run past that length.
-/

namespace CheckpointRelay.Wire

/-- How a message of type `α` takes in the field with a key, whose value starts the input, while `depth` levels of
nesting are still allowed. -/
abbrev TakeField (α : Type) :=
  (depth : Nat) → Key → α → (input : Bytes) → Reading (Left input α)

/-- The message after all fields up to the place where `limit` octets are left. -/
def takeFields {α : Type} (take : TakeField α) (depth limit : Nat) (message : α) (input : Bytes) :
    Reading (Left input α) :=
  if _h : input.length ≤ limit then .ok ⟨message, input, Nat.le_refl _⟩
  else do
    let k ← readKey input
    have hk := k.shorter
    let t ← take depth k.value message k.rest
    have ht := t.le
    let l ← takeFields take depth limit t.value t.rest
    return ⟨l.value, l.rest, by have := l.le; omega⟩
termination_by input.length
decreasing_by omega

/-- The message that a whole input encodes. -/
def decode {α : Type} (take : TakeField α) (empty : α) (input : Bytes) : Reading α := do
  let l ← takeFields take 100 0 empty input
  return l.value

/-- Refuses a field whose kind is not the expected one. -/
def expect (expected : Kind) (key : Key) : Reading Unit :=
  if key.kind = expected then .ok () else fail (.unexpectedKind key.kind expected)

/-- A nested message, taken into what an earlier occurrence of its field left. -/
def takeNested {α : Type} (take : TakeField α) (depth : Nat) (key : Key) (message : α) (input : Bytes) :
    Reading (Left input α) := do
  expect .delimited key
  if depth = 0 then fail .tooDeep
  else
    let n ← readVarint input
    if n.rest.length < n.value then fail .underflow
    else
      let limit := n.rest.length - n.value
      let l ← takeFields take (depth - 1) limit message n.rest
      if l.rest.length = limit then return ⟨l.value, l.rest, by have := l.le; have := n.shorter; omega⟩
      else fail .exceedsLength

/-- A field that is not known. -/
def takeUnknown {α : Type} (depth : Nat) (key : Key) (message : α) (input : Bytes) : Reading (Left input α) := do
  return (← skipValue depth key input).map fun _ => message

/-- A field of octets. -/
def takeBytes (key : Key) (input : Bytes) : Reading (Left input Bytes) := do
  expect .delimited key
  return (← readDelimited input).left

/-- A field of text. -/
def takeText (key : Key) (input : Bytes) : Reading (Left input String) := do
  let t ← takeBytes key input
  match Utf8.decode t.value with
  | .ok s => return t.map fun _ => s
  | .error _ => fail .notText

/-- A field of a signed number of sixty-four bits. -/
def takeInt64 (key : Key) (input : Bytes) : Reading (Left input Int64) := do
  expect .varint key
  return (← readVarint input).left.map fun n => (UInt64.ofNat n).toInt64

/-- A field of a signed number of thirty-two bits; the higher bits are dropped. -/
def takeInt32 (key : Key) (input : Bytes) : Reading (Left input Int32) := do
  expect .varint key
  return (← readVarint input).left.map fun n => (UInt32.ofNat n).toInt32

/-- The octets of a field of octets behind their number. -/
def delimitedField (number : Nat) (b : Bytes) : Bytes :=
  Key.encode ⟨number, .delimited⟩ ++ varint b.length ++ b

/-- A field of octets, left out when there are none. -/
def bytesField (number : Nat) (b : Bytes) : Bytes :=
  if b = [] then [] else delimitedField number b

/-- A field of text, left out when it is empty. -/
def textField (number : Nat) (s : String) : Bytes :=
  bytesField number (Utf8.encode s)

/-- A field of a signed number of sixty-four bits, left out when it is zero. -/
def int64Field (number : Nat) (n : Int64) : Bytes :=
  if n = 0 then [] else Key.encode ⟨number, .varint⟩ ++ varint n.toUInt64.toNat

/-- A field of a signed number of thirty-two bits, left out when it is zero; a negative number is extended to sixty-four
bits. -/
def int32Field (number : Nat) (n : Int32) : Bytes :=
  int64Field number n.toInt64

/-- A field of an optional nested message with its encoding. -/
def optionalField (number : Nat) : Option Bytes → Bytes
  | none => []
  | some b => delimitedField number b

/-- A field for each of several encodings. -/
def repeatedField (number : Nat) (items : List Bytes) : Bytes :=
  items.flatMap (delimitedField number)

end CheckpointRelay.Wire
