import CheckpointRelay.Text.Utf8
import CheckpointRelay.Wire.Varint

/-!
# Fields of encoded messages

An encoded message is a sequence of fields, each a key with a number and a kind and then a value of that kind. This
module reads keys and values, skips fields that a message does not know, and says what can be wrong with them.
-/

namespace CheckpointRelay.Wire

/-- How the value of a field is laid out. -/
inductive Kind
  | varint
  | fixed64
  | delimited
  | startGroup
  | endGroup
  | fixed32
  deriving DecidableEq, Repr

/-- The name of a kind in error texts. -/
def Kind.name : Kind → String
  | .varint => "Varint"
  | .fixed64 => "SixtyFourBit"
  | .delimited => "LengthDelimited"
  | .startGroup => "StartGroup"
  | .endGroup => "EndGroup"
  | .fixed32 => "ThirtyTwoBit"

/-- The number of a kind in a key. -/
def Kind.code : Kind → Nat
  | .varint => 0
  | .fixed64 => 1
  | .delimited => 2
  | .startGroup => 3
  | .endGroup => 4
  | .fixed32 => 5

/-- The kind of a number. -/
def Kind.ofCode? : Nat → Option Kind
  | 0 => some .varint
  | 1 => some .fixed64
  | 2 => some .delimited
  | 3 => some .startGroup
  | 4 => some .endGroup
  | 5 => some .fixed32
  | _ => none

/-- What is wrong with an encoded message. -/
inductive Fault
  /-- A number is cut off or has more than sixty-four bits. -/
  | badVarint
  /-- A key has more than thirty-two bits. -/
  | badKey (key : Nat)
  /-- A key names no kind. -/
  | badKind (code : Nat)
  /-- A key has the field number zero. -/
  | zeroNumber
  /-- A field has another kind than its message says. -/
  | unexpectedKind (got expected : Kind)
  /-- A value is longer than the rest of the input. -/
  | underflow
  /-- The last field of a nested message runs past the end of that message. -/
  | exceedsLength
  /-- A group ends that was not begun. -/
  | unexpectedGroupEnd
  /-- Messages and groups are nested too deeply. -/
  | tooDeep
  /-- Octets that should be text are not. -/
  | notText
  deriving DecidableEq, Repr

/-- The wording of a fault. -/
def Fault.message : Fault → String
  | .badVarint => "invalid varint"
  | .badKey key => s!"invalid key value: {key}"
  | .badKind code => s!"invalid wire type value: {code}"
  | .zeroNumber => "invalid tag value: 0"
  | .unexpectedKind got expected => s!"invalid wire type: {got.name} (expected {expected.name})"
  | .underflow => "buffer underflow"
  | .exceedsLength => "delimited length exceeded"
  | .unexpectedGroupEnd => "unexpected end group tag"
  | .tooDeep => "recursion limit reached"
  | .notText => "invalid string value: data is not UTF-8 encoded"

/-- A fault with the fields in which it lies, the innermost first. -/
structure DecodeError where
  /-- The fields, each as `Message.field`. -/
  path : List String
  fault : Fault
  deriving DecidableEq, Repr

/-- The wording of a decoding error. -/
def DecodeError.message (e : DecodeError) : String :=
  "failed to decode Protobuf message: " ++ String.join (e.path.map (· ++ ": ")) ++ e.fault.message

/-- A reading with its faults. -/
abbrev Reading (α : Type) := Except DecodeError α

/-- Stops with a fault. -/
def fail {α : Type} (fault : Fault) : Reading α :=
  .error ⟨[], fault⟩

/-- A reading whose faults lie in a field. -/
def inField {α : Type} (field : String) (r : Reading α) : Reading α :=
  r.mapError fun e => ⟨e.path ++ [field], e.fault⟩

/-- The number at the front of the input. -/
def readVarint (input : Bytes) : Reading (Taken input Nat) :=
  match readVarint? 10 input with
  | some t => .ok t
  | none => fail .badVarint

/-- The number and the kind of a field. -/
structure Key where
  number : Nat
  kind : Kind
  deriving DecidableEq, Repr

/-- The octets of a key. -/
def Key.encode (key : Key) : Bytes :=
  varint (key.number * 8 + key.kind.code)

/-- The key at the front of the input. -/
def readKey (input : Bytes) : Reading (Taken input Key) := do
  let t ← readVarint input
  if UInt32.size ≤ t.value then fail (.badKey t.value)
  else match Kind.ofCode? (t.value % 8) with
    | none => fail (.badKind (t.value % 8))
    | some kind => if t.value / 8 = 0 then fail .zeroNumber else return ⟨⟨t.value / 8, kind⟩, t.rest, t.shorter⟩

/-- A value and what is left of the input, which is no longer than `input`. -/
structure Left (input : Bytes) (α : Type) where
  /-- The value. -/
  value : α
  /-- What is left. -/
  rest : Bytes
  le : rest.length ≤ input.length

/-- The value, with what `f` makes of it in place of it. -/
def Left.map {input : Bytes} {α β : Type} (f : α → β) (l : Left input α) : Left input β :=
  ⟨f l.value, l.rest, l.le⟩

/-- What is left, without the value. -/
def Left.skipped {input : Bytes} {α : Type} (l : Left input α) : Left input Unit :=
  ⟨(), l.rest, l.le⟩

/-- What is left is no longer than the input, since it is shorter. -/
def Taken.left {input : Bytes} {α : Type} (t : Taken input α) : Left input α :=
  ⟨t.value, t.rest, Nat.le_of_lt t.shorter⟩

/-- The first `n` octets of the input. -/
def readOctets (n : Nat) (input : Bytes) : Reading (Left input Bytes) :=
  if n ≤ input.length then .ok ⟨input.take n, input.drop n, by rw [List.length_drop]; omega⟩ else fail .underflow

/-- The octets at the front of the input that their own number stands before. -/
def readDelimited (input : Bytes) : Reading (Taken input Bytes) := do
  let t ← readVarint input
  let b ← readOctets t.value t.rest
  return ⟨b.value, b.rest, Nat.lt_of_le_of_lt b.le t.shorter⟩

mutual

/-- The input after the value of a field that is not known, read with `depth` nested groups still allowed. -/
def skipValue (depth : Nat) (key : Key) (input : Bytes) : Reading (Left input Unit) := do
  if depth = 0 then fail .tooDeep
  else match key.kind with
    | .varint => do return (← readVarint input).left.skipped
    | .fixed64 => do return (← readOctets 8 input).skipped
    | .fixed32 => do return (← readOctets 4 input).skipped
    | .delimited => do return (← readDelimited input).left.skipped
    | .startGroup => skipGroup depth key.number input
    | .endGroup => fail .unexpectedGroupEnd
termination_by (input.length, 1)

/-- The input after the end of the group with a field number. -/
def skipGroup (depth number : Nat) (input : Bytes) : Reading (Left input Unit) := do
  let k ← readKey input
  have hk := k.shorter
  if k.value.kind = .endGroup then
    if k.value.number = number then return k.left.skipped else fail .unexpectedGroupEnd
  else do
    let v ← skipValue (depth - 1) k.value k.rest
    have hv := v.le
    let last ← skipGroup depth number v.rest
    return ⟨(), last.rest, by have := last.le; omega⟩
termination_by (input.length, 0)

end

end CheckpointRelay.Wire
