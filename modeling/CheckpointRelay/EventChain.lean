import CheckpointRelay.Hash.Sha256

/-!
# The event chain

The controller keeps a hash over every event it emits. An event takes the tip to the hash of the old tip, the number and
the time of the block, each as a word, the topic of the event and its data.
-/

namespace CheckpointRelay

/-- The head of the event chain. -/
abbrev Tip := Word

/-- The block that a transaction runs against. -/
structure BlockRef where
  number : UInt64
  timestamp : UInt64
  deriving DecidableEq, Repr

/-- An event: its topic and its encoded arguments. -/
structure Event where
  topic : Word
  data : Bytes
  deriving DecidableEq

namespace EventChain

/-- What is hashed for the next tip. -/
def preimage (tip : Tip) (block : BlockRef) (event : Event) : Bytes :=
  tip.bytes ++ Bytes.ofNat 32 block.number.toNat ++ Bytes.ofNat 32 block.timestamp.toNat ++ event.topic.bytes ++
    event.data

/-- The tip after an event. -/
def advance (block : BlockRef) (tip : Tip) (event : Event) : Tip :=
  Sha256.digest (preimage tip block event)

/-- The tip after events in the order in which they are emitted. -/
def fold (block : BlockRef) (tip : Tip) (events : List Event) : Tip :=
  events.foldl (advance block) tip

/-- No events leave the tip. -/
@[simp] theorem fold_nil (block : BlockRef) (tip : Tip) : fold block tip [] = tip := rfl

/-- The first event advances the tip and the rest is folded from there. -/
@[simp] theorem fold_cons (block : BlockRef) (tip : Tip) (event : Event) (events : List Event) :
    fold block tip (event :: events) = fold block (advance block tip event) events := rfl

end EventChain

end CheckpointRelay
