import CheckpointRelay.Bytes

/-!
# Base64

Three octets are written as four digits of six bits. Where octets are missing at the end, `=` stands for the digits that
they would fill.
-/

namespace CheckpointRelay.Base64

/-- The digit of a number below sixty-four. -/
def digit (n : Nat) : Char :=
  if n < 26 then Char.ofNat (65 + n)
  else if n < 52 then Char.ofNat (71 + n)
  else if n < 62 then Char.ofNat (n - 4)
  else if n = 62 then '+'
  else '/'

/-- The digits of octets. -/
def encodeChars : Bytes → List Char
  | [] => []
  | [a] =>
    let n := Bytes.toNat [a, 0, 0]
    [digit (n / 262144), digit (n / 4096 % 64), '=', '=']
  | [a, b] =>
    let n := Bytes.toNat [a, b, 0]
    [digit (n / 262144), digit (n / 4096 % 64), digit (n / 64 % 64), '=']
  | a :: b :: c :: rest =>
    let n := Bytes.toNat [a, b, c]
    [digit (n / 262144), digit (n / 4096 % 64), digit (n / 64 % 64), digit (n % 64)] ++ encodeChars rest

/-- The digits of octets, as a text. -/
def encode (b : Bytes) : String :=
  String.ofList (encodeChars b)

end CheckpointRelay.Base64
