import CheckpointRelay.Toml.Basic

/-!
# TOML: dates and times

A date, a time of day, or both with or without an offset from universal time. Only their form and range are checked, a
moment stays its text.
-/

namespace CheckpointRelay.Toml

open Text

/-- What follows `n` digits at the front of the input, if their number is from `low` to `high`, and the number. -/
def readFixed (n low high : Nat) (input : List Char) : Except Error (Nat × List Char) :=
  let digits := input.take n
  if digits.length = n ∧ digits.all isDigit then
    if low ≤ numberOf 10 digits ∧ numberOf 10 digits ≤ high then .ok (numberOf 10 digits, input.drop n)
    else .error .outOfRange
  else .error .unexpected

/-- What follows a character at the front of the input. -/
def skipChar (c : Char) (input : List Char) : Except Error (List Char) :=
  if input.head? = some c then .ok (input.drop 1) else .error .unexpected

/-- Whether `n` digits and a character stand at the front of the input. -/
def startsWith (n : Nat) (c : Char) (input : List Char) : Bool :=
  (input.take n).length = n && (input.take n).all isDigit && input[n]? = some c

/-- The days of a month. -/
def daysIn (year month : Nat) : Nat :=
  if month = 2 then if year % 4 = 0 ∧ (year % 100 ≠ 0 ∨ year % 400 = 0) then 29 else 28
  else if month = 4 ∨ month = 6 ∨ month = 9 ∨ month = 11 then 30
  else 31

/-- What follows a date. -/
def skipDate (input : List Char) : Except Error (List Char) := do
  let (year, rest) ← readFixed 4 0 9999 input
  let (month, rest) ← readFixed 2 1 12 (← skipChar '-' rest)
  let (_, rest) ← readFixed 2 1 (daysIn year month) (← skipChar '-' rest)
  return rest

/-- What follows a fraction of a second, if there is one. -/
def skipFraction : List Char → List Char
  | '.' :: c :: rest => if isDigit c then rest.dropWhile isDigit else '.' :: c :: rest
  | cs => cs

/-- What follows a time of day. -/
def skipTime (input : List Char) : Except Error (List Char) := do
  let (_, rest) ← readFixed 2 0 23 input
  let (_, rest) ← readFixed 2 0 59 (← skipChar ':' rest)
  let (_, rest) ← readFixed 2 0 60 (← skipChar ':' rest)
  return skipFraction rest

/-- What follows an offset, if there is one. -/
def skipOffset (input : List Char) : Except Error (List Char) :=
  match input with
  | [] => .ok []
  | c :: rest =>
    if c = 'Z' ∨ c = 'z' then .ok rest
    else if c = '+' ∨ c = '-' then do
      let (_, rest) ← readFixed 2 0 23 rest
      let (_, rest) ← readFixed 2 0 59 (← skipChar ':' rest)
      return rest
    else .ok (c :: rest)

/-- What follows a time of day and an offset behind a date, if there are any. -/
def skipTimeOfDate (input : List Char) : Except Error (List Char) :=
  match input with
  | [] => .ok []
  | c :: rest =>
    if (c = 'T' ∨ c = 't' ∨ c = ' ') ∧ startsWith 2 ':' rest then do skipOffset (← skipTime rest)
    else .ok (c :: rest)

/-- Whether a date or a time stands at the front of the input. -/
def startsMoment (input : List Char) : Bool :=
  startsWith 4 '-' input || startsWith 2 ':' input

/-- A date, a time or both: as a value, a table of one member. -/
def readMoment (input : List Char) : Except Error (Tree × List Char) := do
  let rest ← if startsWith 4 '-' input then skipDate input >>= skipTimeOfDate else skipTime input
  return (.table [("moment", .text (String.ofList (input.take (input.length - rest.length))))], rest)

end CheckpointRelay.Toml
