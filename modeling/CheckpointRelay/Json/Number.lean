import CheckpointRelay.Json.Basic

/-!
# Numbers in JSON

Integers from -2⁶³ to 2⁶⁴ - 1 written without fraction and exponent are integers, and all other numbers are reals, also
`-0`. A real keeps its digits; it must be in the range of a double.
-/

namespace CheckpointRelay.Json

open Text

/-- The integer of a number without fraction and exponent, if it is one of sixty-four bits. -/
def integer? (negative : Bool) (n : Nat) : Option Int :=
  if negative then if 0 < n ∧ Int64.minValue.toInt ≤ -(n : Int) then some (-n) else none
  else if n < UInt64.size then some n else none

/-- The digits in front of the input, of which there must be one. -/
def readDigits (input : List Char) : Except Error (Scanned input (List Char)) :=
  if h : input.takeWhile isDigit = [] then .error .unexpected
  else .ok ⟨input.takeWhile isDigit, input.dropWhile isDigit, length_dropWhile_lt h⟩

/-- The fraction of a number, if there is one. -/
def readFraction (input : List Char) : Except Error (Option (Scanned input (List Char))) :=
  match input with
  | '.' :: rest => (readDigits rest).map fun ds => some (ds.behind '.')
  | _ => .ok none

/-- Digits as a number, with a sign in front of them that need not be there. -/
def readSigned (input : List Char) : Except Error (Scanned input Int) :=
  match input with
  | '+' :: rest => (readDigits rest).map fun ds => (ds.map fun ds => (numberOf 10 ds : Int)).behind '+'
  | '-' :: rest => (readDigits rest).map fun ds => (ds.map fun ds => -(numberOf 10 ds : Int)).behind '-'
  | rest => (readDigits rest).map fun ds => ds.map fun ds => (numberOf 10 ds : Int)

/-- The exponent of a number, if there is one. -/
def readExponent (input : List Char) : Except Error (Option (Scanned input Int)) :=
  match input with
  | [] => .ok none
  | c :: rest => if c = 'e' ∨ c = 'E' then (readSigned rest).map fun e => some (e.behind c) else .ok none

/-- The text of a real. -/
def realText (negative : Bool) (whole : List Char) (fraction : Option (List Char)) (exponent : Option Int) : String :=
  let sign := if negative then "-" else ""
  let point := if fraction.isSome then "." else ""
  let power := match exponent with
    | some e => s!"e{e}"
    | none => ""
  sign ++ String.ofList whole ++ point ++ String.ofList (fraction.getD []) ++ power

/-- The value of a number with these parts. -/
def numberTree (negative : Bool) (whole : List Char) (fraction : Option (List Char)) (exponent : Option Int) :
    Except Error Tree :=
  let digits := fraction.getD []
  if Tree.fitsDouble (numberOf 10 (whole ++ digits)) (exponent.getD 0 - digits.length) then
    match fraction, exponent, integer? negative (numberOf 10 whole) with
    | none, none, some n => .ok (.integer n)
    | _, _, _ => .ok (.real (realText negative whole fraction exponent))
  else .error .outOfRange

/-- The digits of a number before its fraction and its exponent: a zero alone, or digits that start with another one. -/
def readWhole (input : List Char) : Except Error (Scanned input (List Char)) := do
  let whole ← readDigits input
  if whole.value.head? = some '0' ∧ 1 < whole.value.length then throw .unexpected else return whole

/-- A number without its sign. -/
def readNumber (negative : Bool) (input : List Char) : Except Error (Scanned input Tree) := do
  let whole ← readWhole input
  let fraction ← readFraction whole.rest
  let exponent ← readExponent (Scanned.restAfter fraction)
  let number ← numberTree negative whole.value (fraction.map (·.value)) (exponent.map (·.value))
  have hf := Scanned.length_restAfter_le fraction
  have he := Scanned.length_restAfter_le exponent
  return ⟨number, Scanned.restAfter exponent, Nat.lt_of_le_of_lt (Nat.le_trans he hf) whole.shorter⟩

end CheckpointRelay.Json
