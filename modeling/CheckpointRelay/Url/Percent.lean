import CheckpointRelay.Text.Hex

/-!
# Percent form

Octets that may not stand in a part of an address are written as `%` and two digits. Each part has its own set of them;
controls and characters outside ASCII are in all sets. Main statement: `decode_octet`, an octet that is written so reads
back.
-/

namespace CheckpointRelay.Percent

/-- The upper-case hexadecimal digit of a number below sixteen. -/
def digit (n : Nat) : Char :=
  if n < 10 then Char.ofNat (48 + n) else Char.ofNat (55 + n)

/-- The percent form of an octet. -/
def octet (b : UInt8) : List Char :=
  ['%', digit (b.toNat / 16), digit (b.toNat % 16)]

/-- Whether a character is a control character or outside ASCII. -/
def isForeign (c : Char) : Bool :=
  c.toNat < 0x20 || 0x7F ≤ c.toNat

/-- Characters, with those of a set, and those that are in all sets, in percent form. -/
def encode (set : List Char) (cs : List Char) : List Char :=
  cs.flatMap fun c => if isForeign c || set.contains c then (String.utf8EncodeChar c).flatMap octet else [c]

/-- What is written in percent form in a fragment. -/
def fragmentSet : List Char := " \"<>`".toList

/-- What is written in percent form in a path. -/
def pathSet : List Char := fragmentSet ++ "#?\x7b\x7d".toList

/-- What is written in percent form in a name and a password. -/
def userSet : List Char := pathSet ++ "/:;=@[\\]^|".toList

/-- What is written in percent form in a query. -/
def querySet : List Char := " \"#<>".toList

/-- Octets, with those in percent form restored. A `%` without two digits stands for itself. -/
def decode : Bytes → Bytes
  | 37 :: high :: low :: rest =>
    match Hex.digitValue? high, Hex.digitValue? low with
    | some h, some l => UInt8.ofNat (h * 16 + l) :: decode rest
    | _, _ => 37 :: decode (high :: low :: rest)
  | b :: rest => b :: decode rest
  | [] => []

/-- What is written in percent form reads back, whatever follows it. -/
theorem decode_octet (b : UInt8) (rest : Bytes) :
    decode ((octet b).flatMap String.utf8EncodeChar ++ rest) = b :: decode rest := by
  have key : ∀ n : Fin 16, String.utf8EncodeChar (digit n.val) = [UInt8.ofNat (digit n.val).toNat] ∧
      Hex.digitValue? (UInt8.ofNat (digit n.val).toNat) = some n.val := by decide
  have hlt : b.toNat < 256 := b.toNat_lt
  have high := key ⟨b.toNat / 16, by omega⟩
  have low := key ⟨b.toNat % 16, by omega⟩
  have percent : String.utf8EncodeChar '%' = [37] := by decide
  have hval : UInt8.ofNat (b.toNat / 16 * 16 + b.toNat % 16) = b := by
    apply UInt8.toNat_inj.mp
    simp only [UInt8.toNat_ofNat']
    omega
  simp only at high low
  simp only [octet, List.flatMap_cons, List.flatMap_nil, percent, high.1, low.1, List.cons_append, List.nil_append,
    decode, high.2, low.2, hval]

end CheckpointRelay.Percent
