import CheckpointRelay.Address
import CheckpointRelay.Curve.Ecdsa

/-!
# Keys and signers

A private key is sixty-four hexadecimal digits, and a signer is a key that is a scalar of the curve. Its address follows
from its public point.
-/

namespace CheckpointRelay

/-- Why something is no key. -/
inductive KeyError
  /-- The text of a private key is not hexadecimal. -/
  | notHex (cause : Hex.Error)
  /-- A private key has not thirty-two octets. -/
  | length (got : Nat)
  /-- A private key is zero or not below the group order. -/
  | notScalar
  /-- A public key is not uncompressed. -/
  | notUncompressed (got : Nat)
  deriving DecidableEq, Repr

/-- The wording of a key error. -/
def KeyError.message : KeyError → String
  | .notHex cause => s!"not hex: {cause.message}"
  | .length got => s!"expected 32 bytes, got {got}"
  | .notScalar => "not a secp256k1 scalar: signature error"
  | .notUncompressed got => s!"expected uncompressed public key, got {got} bytes"

/-- The octets of a private key. Blank characters around the text and one marker `0x` are ignored. -/
def PrivateKey.parse (text : String) : Except KeyError Word :=
  match Hex.decodeChars (Text.dropHexMarker (Text.trimChars text.toList)) with
  | .error cause => .error (.notHex cause)
  | .ok b =>
    match Octets.ofBytes? 32 b with
    | some w => .ok w
    | none => .error (.length b.length)

/-- The address of an uncompressed public key: the two coordinates, with or without the octet `4` in front. -/
def Address.ofPublicKey (key : Bytes) : Except KeyError Address :=
  let coordinates := if key.length = 65 ∧ key.head? = some 4 then key.drop 1 else key
  match Octets.ofBytes? 64 coordinates with
  | some c => .ok (.ofPoint c)
  | none => .error (.notUncompressed key.length)

/-- One who can sign. -/
structure Signer where
  /-- The secret scalar. -/
  secret : Ecdsa.SecretKey
  deriving DecidableEq

namespace Signer

/-- The signer of thirty-two octets. -/
def ofWord (w : Word) : Except KeyError Signer :=
  match Ecdsa.SecretKey.ofWord? w with
  | some secret => .ok ⟨secret⟩
  | none => .error .notScalar

/-- The signer of a private key. -/
def ofHex (text : String) : Except KeyError Signer :=
  PrivateKey.parse text >>= ofWord

/-- The coordinates of the public point. -/
def coordinates (s : Signer) : Octets 64 :=
  let point := Ecdsa.publicPoint s.secret
  ⟨Bytes.ofNat 32 point.1 ++ Bytes.ofNat 32 point.2, by simp⟩

/-- The uncompressed public key. -/
def publicKey (s : Signer) : Bytes :=
  4 :: s.coordinates.bytes

/-- The address of the signer's account. -/
def address (s : Signer) : Address :=
  .ofPoint s.coordinates

/-- The signature of a digest, if there is one. -/
def sign? (s : Signer) (digest : Word) : Option (Octets 65) :=
  Ecdsa.sign? s.secret digest

end Signer

end CheckpointRelay
