import CheckpointRelay.Toml.Draft
import CheckpointRelay.Toml.Moment
import CheckpointRelay.Toml.Number
import CheckpointRelay.Toml.Quoted

/-!
# TOML: keys and values

A key is one name or several with dots between them, each bare or quoted. A value is a scalar, a list, which may spread
over lines, or a table on one line. Lists and tables nest up to seventy-nine levels deep.
-/

namespace CheckpointRelay.Toml

open Text

/-- The levels of nesting that a value may have. -/
def nestingLimit : Nat := 79

/-! ## Keys -/

/-- The most names that a dotted key can have. -/
def keyLimit : Nat := 79

/-- Whether a character can stand in a bare name. -/
def isBare (c : Char) : Bool :=
  ('a' ≤ c && c ≤ 'z') || ('A' ≤ c && c ≤ 'Z') || isDigit c || c = '_' || c = '-'

/-- What is left behind the first character is shorter than the text. -/
theorem length_dropWhile_lt_cons (p : Char → Bool) (c : Char) (cs : List Char) :
    (cs.dropWhile p).length < (c :: cs).length :=
  Nat.lt_succ_of_le (length_dropWhile_le p cs)

/-- One name. -/
def readName (input : List Char) : Except Error (Scanned input String) :=
  match input with
  | '"' :: rest => do return ((← readLine .basic rest).map String.ofList).behind '"'
  | '\'' :: rest => do return ((← readLine .literal rest).map String.ofList).behind '\''
  | [] => .error .unfinished
  | c :: rest =>
    if isBare c then
      .ok ⟨String.ofList (c :: rest.takeWhile isBare), rest.dropWhile isBare, length_dropWhile_lt_cons isBare c rest⟩
    else .error .unexpected

/-- Names with dots between them, and blanks around each. -/
def readNames (input : List Char) : Except Error (Scanned input (List String)) := do
  let name ← (readName (skipBlanks input)).map fun name => name.widen (length_skipBlanks_le input)
  have hn := name.shorter
  match h : skipBlanks name.rest with
  | '.' :: rest => do
    have hr := length_lt_of_skipBlanks h
    return name.andThen List.cons ((← readNames rest).widen (Nat.le_of_lt hr))
  | _ => return ⟨[name.value], skipBlanks name.rest, Nat.lt_of_le_of_lt (length_skipBlanks_le name.rest) hn⟩
termination_by input.length

/-- A key with the blanks around it. -/
def readKey (input : List Char) : Except Error (Scanned input Key) := do
  let names ← readNames input
  if keyLimit < names.value.length then throw .tooDeep
  return ⟨⟨names.value.dropLast, names.value.getLastD ""⟩, names.rest, names.shorter⟩

/-! ## Values -/

/-- A value other than a text, a list or a table in braces. -/
def readScalar (input : List Char) : Except Error (Tree × List Char) :=
  match afterWord? "true" input, afterWord? "false" input with
  | some rest, _ => .ok (.bool true, rest)
  | _, some rest => .ok (.bool false, rest)
  | _, _ => if startsMoment input then readMoment input else readNumber input

/-- A result whose rest is shorter than the input, which holds of every scalar. -/
def shorten (input : List Char) (r : Tree × List Char) : Except Error (Scanned input Tree) :=
  if h : r.2.length < input.length then .ok ⟨r.1, r.2, h⟩ else .error .unexpected

/-- What trivia leave is no longer than the text. -/
theorem length_cons_le_of_skipTrivia {c : Char} {cs input : List Char} (h : skipTrivia input = c :: cs) :
    (c :: cs).length ≤ input.length :=
  h ▸ length_skipTrivia_le input

/-- Skipping blanks behind the first character leaves less than the text. -/
theorem length_skipBlanks_lt_of_eq {c : Char} {cs rest : List Char} (h : cs = c :: rest) :
    (skipBlanks rest).length < cs.length := by
  subst h
  exact Nat.lt_succ_of_le (length_skipBlanks_le rest)

mutual

/-- The value at the front of the input, with `depth` levels of nesting still allowed. -/
def readValue (depth : Nat) (input : List Char) : Except Error (Scanned input Tree) :=
  match input with
  | '"' :: rest => do return ((← readQuoted .basic rest).map fun t => .text (String.ofList t)).behind '"'
  | '\'' :: rest => do return ((← readQuoted .literal rest).map fun t => .text (String.ofList t)).behind '\''
  | '[' :: rest => do
    if depth = 0 then throw .tooDeep
    return ((← readItems (depth - 1) rest).map Tree.list).behind '['
  | '\x7b' :: rest => do
    if depth = 0 then throw .tooDeep
    let members ← readMembers (depth - 1) true rest
    let t ← tableOf members.value
    return (members.map fun _ => t).behind '\x7b'
  | input => readScalar input >>= shorten input
termination_by (input.length, 0)

/-- The items of a list up to the bracket that ends it. A comma may follow the last. -/
def readItems (depth : Nat) (input : List Char) : Except Error (Scanned input (List Tree)) := do
  match h : skipTrivia input with
  | ']' :: rest => return ⟨[], rest, length_lt_of_skipTrivia h⟩
  | [] => throw .unfinished
  | c :: cs => do
    have hi := length_cons_le_of_skipTrivia h
    let v ← readValue depth (c :: cs)
    have hv := v.shorter
    match h : skipTrivia v.rest with
    | ',' :: rest => do
      have hr := length_lt_of_skipTrivia h
      return (v.andThen List.cons ((← readItems depth rest).widen (Nat.le_of_lt hr))).widen hi
    | ']' :: rest => return ⟨[v.value], rest, Nat.lt_of_lt_of_le (Nat.lt_trans (length_lt_of_skipTrivia h) hv) hi⟩
    | [] => throw .unfinished
    | _ => throw .unexpected
termination_by (input.length, 1)
decreasing_by
  · rcases Nat.lt_or_eq_of_le hi with hlt | heq
    · exact Prod.Lex.left _ _ hlt
    · rw [heq]; exact Prod.Lex.right _ Nat.zero_lt_one
  · exact Prod.Lex.left _ _ (Nat.lt_of_lt_of_le (Nat.lt_trans hr hv) hi)

/-- The members of a table up to the brace that ends it. The brace may stand in front of the first member only. -/
def readMembers (depth : Nat) (first : Bool) (input : List Char) :
    Except Error (Scanned input (List (Key × Tree))) := do
  match h : skipBlanks input, first with
  | '\x7d' :: rest, true => return ⟨[], rest, length_lt_of_skipBlanks h⟩
  | _, _ => do
    let key ← readKey input
    have hk := key.shorter
    match h : key.rest with
    | '=' :: rest => do
      have hb := length_skipBlanks_lt_of_eq h
      let v ← readValue depth (skipBlanks rest)
      have hv := v.shorter
      match h : skipBlanks v.rest with
      | ',' :: rest => do
        have hr := Nat.lt_trans (length_lt_of_skipBlanks h) (Nat.lt_trans hv (Nat.lt_trans hb hk))
        return ((← readMembers depth false rest).map ((key.value, v.value) :: ·)).widen (Nat.le_of_lt hr)
      | '\x7d' :: rest =>
        return ⟨[(key.value, v.value)], rest,
          Nat.lt_trans (length_lt_of_skipBlanks h) (Nat.lt_trans hv (Nat.lt_trans hb hk))⟩
      | [] => throw .unfinished
      | _ => throw .unexpected
    | [] => throw .unfinished
    | _ => throw .unexpected
termination_by (input.length, 1)

end

end CheckpointRelay.Toml
