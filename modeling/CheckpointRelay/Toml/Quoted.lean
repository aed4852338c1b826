import CheckpointRelay.Toml.Basic

/-!
# TOML: quoted texts

A text stands between quotation marks, where escapes are read, or between apostrophes, where every character stands for
itself; and it stands on one line, or over several between three marks.
-/

namespace CheckpointRelay.Toml

open Text

/-- How a text is quoted. -/
inductive Quote
  /-- Between quotation marks, with escapes. -/
  | basic
  /-- Between apostrophes, without escapes. -/
  | literal
  deriving DecidableEq

/-- The mark before and after a text. -/
def Quote.mark : Quote → Char
  | .basic => '"'
  | .literal => '\''

/-- The character whose number is written in `n` hexadecimal digits at the front of the input. -/
def codeAt (n : Nat) (input : List Char) : Except Error Char :=
  let digits := input.take n
  if digits.length = n ∧ digits.all isHexDigit ∧ (numberOf 16 digits).isValidChar then
    .ok (Char.ofNat (numberOf 16 digits))
  else .error .badEscape

/-- The character of an escape of one letter. -/
def escapeLetter? : Char → Option Char
  | 'b' => some '\x08'
  | 't' => some '\t'
  | 'n' => some '\n'
  | 'f' => some '\x0c'
  | 'r' => some '\r'
  | '"' => some '"'
  | '\\' => some '\\'
  | _ => none

/-- How many digits follow the letter of an escape by number; none follow other letters. -/
def codeLength : Char → Nat
  | 'u' => 4
  | 'U' => 8
  | _ => 0

/-- What is left behind the first character is shorter than the text. -/
theorem length_drop_lt_cons (n : Nat) (c : Char) (cs : List Char) : (cs.drop n).length < (c :: cs).length := by
  simp only [List.length_drop, List.length_cons]
  omega

/-- The character of an escape whose backslash has been read. -/
def readEscape (input : List Char) : Except Error (Scanned input Char) :=
  match input with
  | [] => .error .unfinished
  | letter :: rest =>
    match escapeLetter? letter with
    | some c => .ok (.single letter rest c)
    | none => do
      if codeLength letter = 0 then throw .badEscape
      let c ← codeAt (codeLength letter) rest
      return ⟨c, rest.drop (codeLength letter), length_drop_lt_cons (codeLength letter) letter rest⟩

/-- A text on one line whose first mark has been read. -/
def readLine (q : Quote) (input : List Char) : Except Error (Scanned input (List Char)) :=
  match input with
  | [] => .error .unfinished
  | c :: rest => do
    if c = q.mark then return .single c rest []
    else if c = '\\' ∧ q = .basic then do
      let e ← readEscape rest
      have := e.shorter
      return (e.andThen List.cons (← readLine q e.rest)).behind c
    else if isPlain c then do
      return ((← readLine q rest).map (c :: ·)).behind c
    else throw .controlCharacter
termination_by input.length

/-- What follows a backslash at the end of a line, blanks and line ends left out. -/
def continuation? (rest : List Char) : Option (List Char) :=
  match skipBlanks rest with
  | '\n' :: later => some (skipLines later)
  | '\r' :: '\n' :: later => some (skipLines later)
  | _ => none

/-- What stands behind a continued line's end is shorter than the text. -/
theorem length_continuation? {cs rest : List Char} (h : continuation? cs = some rest) : rest.length < cs.length := by
  have hb := length_skipBlanks_le cs
  unfold continuation? at h
  split at h
  · have := length_skipLines_le ‹_›; grind
  · have := length_skipLines_le ‹_›; grind
  · simp at h

/-- The number of marks at the front of the input. -/
def markCount (q : Quote) (input : List Char) : Nat :=
  (input.takeWhile (· = q.mark)).length

/-- There are no more marks than characters. -/
theorem markCount_le (q : Quote) (input : List Char) : markCount q input ≤ input.length :=
  (List.takeWhile_sublist _).length_le

/-- The end of a text over several lines: the first three marks, or up to two marks more, of which the first belong to
the text. -/
def closing? (q : Quote) (input : List Char) : Option (Scanned input (List Char)) :=
  if h : 3 ≤ markCount q input then
    let extra := min (markCount q input - 3) 2
    some ⟨List.replicate extra q.mark, input.drop (extra + 3), by
      have := markCount_le q input
      simp only [List.length_drop]
      omega⟩
  else none

/-- A text over several lines whose first marks have been read. Line ends become line feeds. -/
def readBlock (q : Quote) (input : List Char) : Except Error (Scanned input (List Char)) :=
  match closing? q input with
  | some s => .ok s
  | none => match input with
  | [] => .error .unfinished
  | '\r' :: '\n' :: rest => do
    return (((← readBlock q rest).map ('\n' :: ·)).behind '\n').behind '\r'
  | c :: rest => do
    if c = '\\' ∧ q = .basic then
      match hc : continuation? rest with
      | some later => do
        have hl := length_continuation? hc
        return ((← readBlock q later).widen (Nat.le_of_lt hl)).behind c
      | none => do
        let e ← readEscape rest
        have := e.shorter
        return (e.andThen List.cons (← readBlock q e.rest)).behind c
    else if isPlain c || c = '\n' then do
      return ((← readBlock q rest).map (c :: ·)).behind c
    else throw .controlCharacter
termination_by input.length
decreasing_by all_goals (simp only [List.length_cons]; omega)

/-- The characters after a line end, if there is one. -/
def dropLineEnd : List Char → List Char
  | '\n' :: rest => rest
  | '\r' :: '\n' :: rest => rest
  | cs => cs

/-- Dropping a line's end does not lengthen. -/
theorem length_dropLineEnd_le (cs : List Char) : (dropLineEnd cs).length ≤ cs.length := by
  unfold dropLineEnd
  split <;> grind

/-- A text on one line or over several, whose first mark has been read. A line end after three marks is no part of the
text. -/
def readQuoted (q : Quote) (input : List Char) : Except Error (Scanned input (List Char)) :=
  if 2 ≤ markCount q input then do
    let t ← readBlock q (dropLineEnd (input.drop 2))
    return t.widen (by
      have := length_dropLineEnd_le (input.drop 2); simp only [List.length_drop] at this; omega)
  else readLine q input

end CheckpointRelay.Toml
