import CheckpointRelay.Toml.Basic

/-!
# TOML: numbers

Integers of sixty-four bits with sign, in base ten, sixteen, eight or two, and floating-point numbers. A single
underscore may stand between two digits. A floating-point number stays its text; one that rounds to more than the
largest double is refused.
-/

namespace CheckpointRelay.Toml

open Text

/-- The digits at the front of the input, each underscore between two digits left out, and what follows them. -/
def spanDigits (isDigit : Char → Bool) : List Char → Except Error (List Char × List Char)
  | [] => .ok ([], [])
  | '_' :: c :: rest => do
    if isDigit c then
      let (digits, later) ← spanDigits isDigit rest
      return (c :: digits, later)
    else throw .unexpected
  | c :: rest => do
    if c = '_' then throw .unexpected
    else if isDigit c then
      let (digits, later) ← spanDigits isDigit rest
      return (c :: digits, later)
    else return ([], c :: rest)

/-- The digits at the front of the input, of which the first is no underscore and must be there. -/
def someDigits (isDigit : Char → Bool) : List Char → Except Error (List Char × List Char)
  | c :: rest => if isDigit c then spanDigits isDigit (c :: rest) else .error .unexpected
  | [] => .error .unfinished

/-- The integer if it has sixty-four bits. -/
def int64 (n : Int) : Except Error Tree :=
  if Int64.minValue.toInt ≤ n ∧ n ≤ Int64.maxValue.toInt then .ok (.integer n) else .error .outOfRange

/-- An integer in a base, whose marker has been read. -/
def readBased (base : Nat) (input : List Char) : Except Error (Tree × List Char) := do
  let (digits, rest) ← someDigits (fun c => (hexValue? c).any (· < base)) input
  return (← int64 (numberOf base digits), rest)

/-- The digits before the point: no zero stands in front of others. -/
def readWhole : List Char → Except Error (List Char × List Char)
  | '0' :: rest => .ok (['0'], rest)
  | cs => someDigits isDigit cs

/-- The fraction of a number, if there is one. -/
def readFraction : List Char → Except Error (Option (List Char) × List Char)
  | '.' :: rest => do
    let (digits, later) ← someDigits isDigit rest
    return (some digits, later)
  | cs => .ok (none, cs)

/-- The exponent of a number, if there is one. -/
def readExponent : List Char → Except Error (Option Int × List Char)
  | [] => .ok (none, [])
  | c :: rest => do
    if c = 'e' ∨ c = 'E' then
      match rest with
      | '-' :: rest => do
        let (digits, later) ← someDigits isDigit rest
        return (some (-(numberOf 10 digits : Int)), later)
      | '+' :: rest => do let (digits, later) ← someDigits isDigit rest; return (some (numberOf 10 digits), later)
      | rest => do let (digits, later) ← someDigits isDigit rest; return (some (numberOf 10 digits), later)
    else return (none, c :: rest)

/-- The text of a floating-point number. -/
def realText (negative : Bool) (whole : List Char) (fraction : Option (List Char)) (exponent : Option Int) : String :=
  let sign := if negative then "-" else ""
  let point := match fraction with
    | some digits => "." ++ String.ofList digits
    | none => ""
  let power := match exponent with
    | some e => s!"e{e}"
    | none => ""
  sign ++ String.ofList whole ++ point ++ power

/-- A number in base ten without its sign. -/
def readMagnitude (negative : Bool) (input : List Char) : Except Error (Tree × List Char) := do
  let (whole, rest) ← readWhole input
  let (fraction, rest) ← readFraction rest
  let (exponent, rest) ← readExponent rest
  if fraction = none ∧ exponent = none then
    let n : Int := numberOf 10 whole
    return (← int64 (if negative then -n else n), rest)
  else
    let mantissa := numberOf 10 (whole ++ fraction.getD [])
    if negative || Tree.fitsDouble mantissa (exponent.getD 0 - (fraction.getD []).length) then
      return (.real (realText negative whole fraction exponent), rest)
    else throw .outOfRange

/-- What follows a word at the front of the input. -/
def afterWord? (word : String) (input : List Char) : Option (List Char) :=
  if word.toList.isPrefixOf input then some (input.drop word.toList.length) else none

/-- A number that may be infinite or none at all, without its sign. -/
def readUnsigned (negative : Bool) (input : List Char) : Except Error (Tree × List Char) :=
  match afterWord? "inf" input, afterWord? "nan" input with
  | some rest, _ => .ok (.real (if negative then "-inf" else "inf"), rest)
  | _, some rest => .ok (.real "nan", rest)
  | _, _ => readMagnitude negative input

/-- A number. Only base ten admits a sign. -/
def readNumber : List Char → Except Error (Tree × List Char)
  | '0' :: 'x' :: rest => readBased 16 rest
  | '0' :: 'o' :: rest => readBased 8 rest
  | '0' :: 'b' :: rest => readBased 2 rest
  | '+' :: rest => readUnsigned false rest
  | '-' :: rest => readUnsigned true rest
  | cs => readUnsigned false cs

end CheckpointRelay.Toml
