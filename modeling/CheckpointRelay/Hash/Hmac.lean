import CheckpointRelay.Hash.Sha256

/-!
# Keyed hashing

The message authentication code HMAC with SHA-256, for keys of at most one block.
-/

namespace CheckpointRelay.Hmac

/-- The number of octets in a block of the hash. -/
def blockLength : Nat := 64

/-- The code of a message under a key of at most one block. -/
def code (key message : Bytes) : Bytes :=
  let block := key ++ List.replicate (blockLength - key.length) 0
  let inner := Sha256.digest (block.map (· ^^^ 0x36) ++ message)
  (Sha256.digest (block.map (· ^^^ 0x5c) ++ inner.bytes)).bytes

end CheckpointRelay.Hmac
