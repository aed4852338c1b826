import CheckpointRelay.Address

/-!
# Writing contract calls

Calldata is a selector and words. A dynamic argument stands behind the words: a word gives its offset, and at that place
its length is followed by its contents. All offsets count from the first word after the selector, those inside an array
from its first element word.
-/

namespace CheckpointRelay.Abi

/-- The hash of an event's declaration. -/
def topic (signature : String) : Word :=
  Keccak256.digest (Utf8.encode signature)

/-- The first four octets of the hash of a function's declaration. -/
def selector (signature : String) : Octets 4 :=
  ⟨(topic signature).bytes.take 4, by rw [List.length_take, (topic signature).length_eq]; rfl⟩

/-- An address as a word: the account behind twelve zeros. -/
def ofAddress (a : Address) : Word :=
  ⟨List.replicate 12 0 ++ a.account.bytes, by simp [a.account.length_eq]⟩

/-- A length or an offset as a word. -/
def ofLength (n : Nat) : Word :=
  Octets.ofNat 32 n

/-- Words, one after the other. -/
def words (ws : List Word) : Bytes :=
  ws.flatMap Octets.bytes

/-- A length rounded up to whole words. -/
def paddedLength (n : Nat) : Nat :=
  (n + 31) / 32 * 32

/-- Octets followed by zeros up to a whole word. -/
def padded (b : Bytes) : Bytes :=
  b ++ List.replicate (paddedLength b.length - b.length) 0

/-- A byte string as dynamic contents: its length and its padded octets. -/
def ofBytes (b : Bytes) : Bytes :=
  (ofLength b.length).bytes ++ padded b

/-- An array of words as dynamic contents. -/
def ofWords (items : List Word) : Bytes :=
  (ofLength items.length).bytes ++ words items

/-- The offset words of byte strings that are laid out one after the other from `offset` on. -/
def offsets (offset : Nat) : List Bytes → List Word
  | [] => []
  | item :: rest => ofLength offset :: offsets (offset + 32 + paddedLength item.length) rest

/-- An array of byte strings as dynamic contents: their number, their offsets, and each of them. -/
def ofBytesArray (items : List Bytes) : Bytes :=
  (ofLength items.length).bytes ++ words (offsets (32 * items.length) items) ++ items.flatMap ofBytes

/-- A call with static arguments only. -/
def call (selector : Octets 4) (arguments : List Word) : Bytes :=
  selector.bytes ++ words arguments

/-- A call whose last argument, the only dynamic one, has these contents. -/
def callWithTail (selector : Octets 4) (arguments : List Word) (tail : Bytes) : Bytes :=
  call selector (arguments ++ [ofLength (32 * (arguments.length + 1))]) ++ tail

end CheckpointRelay.Abi
