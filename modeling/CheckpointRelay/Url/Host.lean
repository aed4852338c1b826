import CheckpointRelay.Text.Scan
import CheckpointRelay.Text.Search
import CheckpointRelay.Url.Name
import CheckpointRelay.Url.Percent

/-!
# Hosts

The host of an address is a name or a number. Where the scheme is a special one, a name is put in lower case and in
ASCII, and what looks like a number is one, of thirty-two bits; elsewhere a name is taken as it stands. A number of 128
bits stands between brackets.
-/

namespace CheckpointRelay

open Text

/-- Why a text is no address. -/
inductive UrlError
  | emptyHost
  /-- A name cannot be put in ASCII. -/
  | badDomain
  | badPort
  | badIpv4
  | badIpv6
  /-- A name holds a character that separates parts of an address. -/
  | badCharacter
  /-- There is no scheme. -/
  | relative
  deriving DecidableEq, Repr

/-- The wording of an error. -/
def UrlError.message : UrlError → String
  | .emptyHost => "empty host"
  | .badDomain => "invalid international domain name"
  | .badPort => "invalid port number"
  | .badIpv4 => "invalid IPv4 address"
  | .badIpv6 => "invalid IPv6 address"
  | .badCharacter => "invalid domain character"
  | .relative => "relative URL without a base"

/-- The host of an address. -/
inductive Host
  /-- A name, which may be empty. -/
  | domain (name : String)
  | ipv4 (number : UInt32)
  /-- Eight numbers. -/
  | ipv6 (pieces : List UInt16)
  deriving DecidableEq, Repr

namespace Host

/-! ## Names -/

/-- The characters that separate parts of an address, which no name holds. -/
def separators : List Char := "\x00\t\n\r #/:<>?@[\\]^|".toList

/-- Whether a character of ASCII may not stand in the name of a host with a special scheme. -/
def isForbidden (c : Char) : Bool :=
  c.toNat ≤ 0x20 || c.toNat = 0x7F || c = '%' || separators.contains c

/-- A name in lower case and in ASCII. -/
def asciiName (octets : Bytes) : Except UrlError (List Char) :=
  match Name.ascii? isForbidden octets with
  | none => .error .badDomain
  | some [] => .error .emptyHost
  | some name => .ok name

/-! ## Numbers of thirty-two bits -/

/-- A number in base ten, in base sixteen behind `0x`, or in base eight behind `0`. -/
def number? : List Char → Option Nat
  | '0' :: 'x' :: digits | '0' :: 'X' :: digits => if digits.all isHexDigit then some (numberOf 16 digits) else none
  | ['0'] => some 0
  | '0' :: digits => if digits.all fun c => isDigit c && c < '8' then some (numberOf 8 digits) else none
  | [] => none
  | digits => if digits.all isDigit then some (numberOf 10 digits) else none

/-- The parts of a name between full stops; one at the end does not count. -/
def labels (name : List Char) : List (List Char) :=
  let labels := parts (· = '.') name
  if 1 < labels.length ∧ labels.getLast? = some [] then labels.dropLast else labels

/-- Whether a name looks like a number by its last part. -/
def looksNumeric (name : List Char) : Bool :=
  match (labels name).getLast? with
  | some last => last ≠ [] && last.all isDigit || (number? last).isSome
  | none => false

/-- The number that up to four numbers write, of which each but the last is one octet. -/
def joinNumbers? : (octets : Nat) → List Nat → Option Nat
  | octets + 1, [last] => if last < Bytes.count (octets + 1) then some last else none
  | octets + 1, n :: rest => do
    let later ← joinNumbers? octets rest
    if n < 256 then some (n * Bytes.count octets + later) else none
  | _, _ => none

/-- The number that a name writes. -/
def ipv4? (name : List Char) : Option UInt32 := do
  let numbers ← (labels name).mapM number?
  return UInt32.ofNat (← joinNumbers? 4 numbers)

/-! ## Numbers of 128 bits -/

/-- A number of up to four hexadecimal digits. -/
def piece? (digits : List Char) : Option UInt16 :=
  if digits ≠ [] ∧ digits.length ≤ 4 ∧ digits.all isHexDigit then some (UInt16.ofNat (numberOf 16 digits)) else none

/-- An octet in decimal digits without leading zeros. -/
def decimalOctet? (digits : List Char) : Option Nat :=
  if digits = [] ∨ !digits.all isDigit ∨ (1 < digits.length ∧ digits.head? = some '0') ∨
      255 < numberOf 10 digits then none
  else some (numberOf 10 digits)

/-- The two pieces that four octets in decimal digits write. -/
def dottedPieces? (cs : List Char) : Option (List UInt16) := do
  match ← (parts (· = '.') cs).mapM decimalOctet? with
  | [a, b, c, d] => return [UInt16.ofNat (a * 256 + b), UInt16.ofNat (c * 256 + d)]
  | _ => none

/-- Pieces between colons. Where `final` holds, the last of them may be four octets in decimal digits. -/
def pieces? (final : Bool) : List (List Char) → Option (List UInt16)
  | [] => some []
  | [last] =>
    match piece? last with
    | some n => some [n]
    | none => if final then dottedPieces? last else none
  | first :: rest => do return (← piece? first) :: (← pieces? final rest)

/-- Pieces on one side of two colons, where there may be none. -/
def sidePieces? (final : Bool) (cs : List Char) : Option (List UInt16) :=
  if cs = [] then some [] else pieces? final (parts (· = ':') cs)

/-- The eight pieces that a text writes; two colons stand for one or more zeros. -/
def ipv6? (cs : List Char) : Option (List UInt16) := do
  match cut "::".toList cs with
  | (cs, none) =>
    let pieces ← pieces? true (parts (· = ':') cs)
    if pieces.length = 8 then some pieces else none
  | (front, some back) =>
    let front ← sidePieces? false front
    let back ← sidePieces? true back
    if front.length + back.length < 8 then
      some (front ++ List.replicate (8 - front.length - back.length) 0 ++ back)
    else none

/-- How many zeros are in front. -/
def zerosInFront (pieces : List UInt16) : Nat :=
  (pieces.takeWhile (· = 0)).length

/-- Where the longest run of zeros starts, the first of several, and how long it is. -/
def longestZeros (pieces : List UInt16) : Nat × Nat :=
  (List.range pieces.length).foldl (fun best i =>
    let run := zerosInFront (pieces.drop i)
    if best.2 < run then (i, run) else best) (0, 0)

/-- Pieces between colons. -/
def pieceText (pieces : List UInt16) : String :=
  ":".intercalate (pieces.map fun n => String.ofList (hexDigits n.toNat))

/-- The text of eight pieces: two colons stand for the longest run of at least two zeros. -/
def ipv6Text (pieces : List UInt16) : String :=
  let (start, run) := longestZeros pieces
  if run < 2 then pieceText pieces
  else pieceText (pieces.take start) ++ "::" ++ pieceText (pieces.drop (start + run))

/-! ## Hosts -/

/-- The host between brackets, of which the first is read. -/
def ofBracketed (cs : List Char) : Except UrlError Host :=
  if cs.getLast? = some ']' then
    match ipv6? cs.dropLast with
    | some pieces => .ok (.ipv6 pieces)
    | none => .error .badIpv6
  else .error .badIpv6

/-- The host of an address with a special scheme. -/
def ofSpecial (cs : List Char) : Except UrlError Host :=
  match cs with
  | '[' :: rest => ofBracketed rest
  | _ => do
    let name ← asciiName (Percent.decode (cs.flatMap String.utf8EncodeChar))
    if looksNumeric name then
      match ipv4? name with
      | some number => return .ipv4 number
      | none => throw .badIpv4
    else return .domain (String.ofList name)

/-- The host of an address with another scheme. -/
def ofOther (cs : List Char) : Except UrlError Host :=
  match cs with
  | '[' :: rest => ofBracketed rest
  | _ =>
    if cs.any separators.contains then .error .badCharacter
    else .ok (.domain (String.ofList (Percent.encode [] cs)))

/-- The text of a number of thirty-two bits: its octets in decimal digits. -/
def ipv4Text (number : UInt32) : String :=
  ".".intercalate ((Bytes.ofNat 4 number.toNat).map fun b => toString b.toNat)

/-- The text of a host by which it can be looked up. -/
def name : Host → String
  | .domain name => name
  | .ipv4 number => ipv4Text number
  | .ipv6 pieces => ipv6Text pieces

/-- The text of a host in an address. -/
def text : Host → String
  | .ipv6 pieces => "[" ++ ipv6Text pieces ++ "]"
  | host => host.name

end Host

end CheckpointRelay
