import CheckpointRelay.Json.Basic

/-!
# Texts in JSON

The inside of a text is read character by character up to the quote that ends it. A character stands for itself or is
written by an escape: a letter, or four digits for a code unit of UTF-16, of which two surrogates make one character.
-/

namespace CheckpointRelay.Json

open Text

/-- The number of four hexadecimal digits. -/
def readQuad (input : List Char) : Except Error (Scanned input Nat) :=
  match input with
  | a :: b :: c :: d :: rest =>
    if isHexDigit a && isHexDigit b && isHexDigit c && isHexDigit d then
      .ok ((((Scanned.single d rest (numberOf 16 [a, b, c, d])).behind c).behind b).behind a)
    else .error .unexpected
  | _ => .error .unfinished

/-- Whether a number is the first of two surrogates. -/
def isHighSurrogate (n : Nat) : Bool :=
  0xD800 ≤ n && n < 0xDC00

/-- Whether a number is the second of two surrogates. -/
def isLowSurrogate (n : Nat) : Bool :=
  0xDC00 ≤ n && n < 0xE000

/-- The character of two surrogates. -/
def surrogatePair (high low : Nat) : Char :=
  Char.ofNat (0x10000 + (high - 0xD800) * 1024 + (low - 0xDC00))

/-- The second of two surrogates, with its backslash. -/
def readLowSurrogate (input : List Char) : Except Error (Scanned input Nat) :=
  match input with
  | '\\' :: 'u' :: rest => do
    let low ← readQuad rest
    if isLowSurrogate low.value then return (low.behind 'u').behind '\\' else throw .loneSurrogate
  | _ => .error .loneSurrogate

/-- The character of an escape by number, behind its `u`. -/
def readUnicode (input : List Char) : Except Error (Scanned input Char) := do
  let first ← readQuad input
  if isHighSurrogate first.value then return first.andThen surrogatePair (← readLowSurrogate first.rest)
  else if isLowSurrogate first.value then throw .loneSurrogate
  else return first.map Char.ofNat

/-- The character of an escape of one letter. -/
def escapeLetter? : Char → Option Char
  | '"' => some '"'
  | '\\' => some '\\'
  | '/' => some '/'
  | 'b' => some '\x08'
  | 'f' => some '\x0c'
  | 'n' => some '\n'
  | 'r' => some '\r'
  | 't' => some '\t'
  | _ => none

/-- The character of an escape, behind its backslash. -/
def readEscape (input : List Char) : Except Error (Scanned input Char) :=
  match input with
  | [] => .error .unfinished
  | letter :: rest =>
    if letter = 'u' then (readUnicode rest).map (·.behind letter)
    else match escapeLetter? letter with
      | some c => .ok (.single letter rest c)
      | none => .error .unexpected

/-- The first character inside a text; none if the quote that ends it stands there. -/
def readInside (input : List Char) : Except Error (Scanned input (Option Char)) :=
  match input with
  | [] => .error .unfinished
  | c :: rest =>
    if c = '"' then .ok (.single c rest none)
    else if c = '\\' then (readEscape rest).map fun e => (e.map some).behind c
    else if c.toNat < 0x20 then .error .controlCharacter
    else .ok (.single c rest (some c))

/-- The inside of a text and the quote that ends it. -/
def readText (input : List Char) : Except Error (Scanned input (List Char)) := do
  let first ← readInside input
  have := first.shorter
  match first.value with
  | none => return first.map fun _ => []
  | some c => return first.andThen (fun _ cs => c :: cs) (← readText first.rest)
termination_by input.length

end CheckpointRelay.Json
