import CheckpointRelay.Curve.Secp256k1
import CheckpointRelay.Hash.Hmac

/-!
# Deterministic signatures

Signatures `r ‖ s` with the parity of the nonce point's `y`. The nonce follows RFC 6979 with HMAC-SHA-256, so a key
signs a digest in one way only, and of `s` and its negative the smaller is taken.
-/

namespace CheckpointRelay.Ecdsa

open Secp256k1

/-- A secret scalar: a number from one to the group order less one. -/
structure SecretKey where
  /-- The number. -/
  val : Nat
  pos : 0 < val
  lt : val < groupOrder
  deriving DecidableEq

/-- A secret scalar from its thirty-two octets, if these write one. -/
def SecretKey.ofWord? (w : Word) : Option SecretKey :=
  if h : 0 < w.toNat ∧ w.toNat < groupOrder then some ⟨w.toNat, h.1, h.2⟩ else none

/-- The state of the generator of nonces: a key and a value. -/
structure NonceState where
  key : Bytes
  value : Bytes

/-- A new key, from the old one, the value, a separator and `input`, and then a new value. -/
def NonceState.reseed (s : NonceState) (separator : UInt8) (input : Bytes) : NonceState :=
  let key := Hmac.code s.key (s.value ++ separator :: input)
  ⟨key, Hmac.code key s.value⟩

/-- The first of at most `tries` values that is a scalar. -/
def NonceState.draw (s : NonceState) : (tries : Nat) → Option Nat
  | 0 => none
  | tries + 1 =>
    let value := Hmac.code s.key s.value
    let n := Bytes.toNat value
    if 0 < n ∧ n < groupOrder then some n else draw (reseed ⟨s.key, value⟩ 0 []) tries

/-- The nonce of a digest. A value is no scalar with a chance below 2⁻¹²⁷, so the bound on the tries is never met. -/
def nonce? (key : SecretKey) (digest : Word) : Option Nat :=
  let input := Bytes.ofNat 32 key.val ++ digest.bytes
  let fresh : NonceState := ⟨List.replicate 32 0, List.replicate 32 1⟩
  ((fresh.reseed 0 input).reseed 1 input).draw 64

/-- The affine coordinates of the public point of a secret scalar. -/
def publicPoint (key : SecretKey) : Nat × Nat :=
  (Point.generator.multiple key.val).affine

/-- The signature `r ‖ s ‖ v` of a digest; none if a part of it would be zero. -/
def sign? (key : SecretKey) (digest : Word) : Option (Octets 65) := do
  let k ← nonce? key digest
  let (x, y) := (Point.generator.multiple k).affine
  let r := x % groupOrder
  let s := inverse k groupOrder * (digest.toNat + r * key.val) % groupOrder
  if r = 0 ∨ s = 0 then none
  else
    let high := groupOrder / 2 < s
    let s := if high then groupOrder - s else s
    let odd := decide (y % 2 = 1) ^^ decide high
    some ⟨Bytes.ofNat 32 r ++ Bytes.ofNat 32 s ++ [if odd then 1 else 0], by simp⟩

end CheckpointRelay.Ecdsa
