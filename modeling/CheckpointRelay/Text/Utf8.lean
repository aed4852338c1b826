import CheckpointRelay.Bytes

/-!
# UTF-8

Writing text as octets, and reading octets as text in two ways: `decode` refuses ill-formed input and says where it goes
wrong, `decodeLossy` puts one replacement character in place of each ill-formed part. Both take the same steps (`next`):
one character, or the longest start of a character that cannot be completed.
-/

namespace CheckpointRelay.Utf8

/-- The octets of a text. -/
def encode (s : String) : Bytes :=
  s.toList.flatMap String.utf8EncodeChar

/-- What stands at the front of a non-empty octet sequence. -/
inductive Front (octets : Bytes)
  /-- A whole character and the octets after it. -/
  | char (c : Char) (rest : Bytes) (shorter : rest.length < octets.length)
  /-- An ill-formed part and the octets after it, which another character could start with. -/
  | bad (width : Nat) (rest : Bytes) (shorter : rest.length < octets.length)
  /-- A character that the input ends in the middle of. -/
  | cut

/-- A continuation octet carries six bits. -/
def isTail (octet : UInt8) : Bool :=
  0x80 ≤ octet && octet ≤ 0xBF

/-- The six bits of a continuation octet. -/
def tailBits (octet : UInt8) : Nat :=
  octet.toNat % 64

/-- The octets that may follow the first octet of a character of three or four. The shorter ranges exclude overlong
forms, surrogates and numbers above the last code point. -/
def mayFollow (first second : UInt8) : Bool :=
  if first = 0xE0 then 0xA0 ≤ second && second ≤ 0xBF
  else if first = 0xED then 0x80 ≤ second && second ≤ 0x9F
  else if first = 0xF0 then 0x90 ≤ second && second ≤ 0xBF
  else if first = 0xF4 then 0x80 ≤ second && second ≤ 0x8F
  else isTail second

/-- How many octets a character has by its first one; none for an octet that starts no character. -/
def width? (first : UInt8) : Option Nat :=
  if first < 0x80 then some 1
  else if 0xC2 ≤ first && first ≤ 0xDF then some 2
  else if 0xE0 ≤ first && first ≤ 0xEF then some 3
  else if 0xF0 ≤ first && first ≤ 0xF4 then some 4
  else none

/-- The character, or the ill-formed part, that the octets `first :: rest` start with. -/
def next (first : UInt8) (rest : Bytes) : Front (first :: rest) :=
  match width? first, rest with
  | none, rest => .bad 1 rest (by grind)
  | some 1, rest => .char (Char.ofNat first.toNat) rest (by grind)
  | some 2, [] => .cut
  | some 2, b :: rest =>
    if isTail b then .char (Char.ofNat (first.toNat % 32 * 64 + tailBits b)) rest (by grind)
    else .bad 1 (b :: rest) (by grind)
  | some 3, [] => .cut
  | some 3, b :: rest =>
    if !mayFollow first b then .bad 1 (b :: rest) (by grind)
    else match rest with
      | [] => .cut
      | c :: rest =>
        if isTail c then .char (Char.ofNat (first.toNat % 16 * 4096 + tailBits b * 64 + tailBits c)) rest (by grind)
        else .bad 2 (c :: rest) (by grind)
  | some _, [] => .cut
  | some _, b :: rest =>
    if !mayFollow first b then .bad 1 (b :: rest) (by grind)
    else match rest with
      | [] => .cut
      | c :: rest =>
        if !isTail c then .bad 2 (c :: rest) (by grind)
        else match rest with
          | [] => .cut
          | d :: rest =>
            if isTail d then
              .char (Char.ofNat (first.toNat % 8 * 262144 + tailBits b * 4096 + tailBits c * 64 + tailBits d)) rest
                (by grind)
            else .bad 3 (d :: rest) (by grind)

/-- Where and how an octet sequence stops being text. -/
inductive Error
  /-- The part of `width` octets at position `start` can be continued by no octets at all. -/
  | invalid (width start : Nat)
  /-- The input ends inside the character that starts at position `start`. -/
  | incomplete (start : Nat)
  deriving DecidableEq, Repr

/-- The wording of a decoding error. -/
def Error.message : Error → String
  | .invalid width start => s!"invalid utf-8 sequence of {width} bytes from index {start}"
  | .incomplete start => s!"incomplete utf-8 byte sequence from index {start}"

/-- The characters of octets that start at position `start` of the whole input. -/
def decodeFrom (start : Nat) : Bytes → Except Error (List Char)
  | [] => .ok []
  | first :: octets =>
    match next first octets with
    | .char c rest shorter =>
      have := shorter
      (c :: ·) <$> decodeFrom (start + ((octets.length + 1) - rest.length)) rest
    | .bad width _ _ => .error (.invalid width start)
    | .cut => .error (.incomplete start)
termination_by octets => octets.length
decreasing_by exact this

/-- The text that octets write, or where they go wrong first. -/
def decode (octets : Bytes) : Except Error String :=
  String.ofList <$> decodeFrom 0 octets

/-- The characters of octets, with U+FFFD for each ill-formed part. -/
def lossyChars : Bytes → List Char
  | [] => []
  | first :: octets =>
    match next first octets with
    | .char c rest shorter =>
      have := shorter
      c :: lossyChars rest
    | .bad _ rest shorter =>
      have := shorter
      '\uFFFD' :: lossyChars rest
    | .cut => ['\uFFFD']
termination_by octets => octets.length
decreasing_by all_goals exact this

/-- The text that octets write, with U+FFFD for each ill-formed part. -/
def decodeLossy (octets : Bytes) : String :=
  String.ofList (lossyChars octets)

end CheckpointRelay.Utf8
