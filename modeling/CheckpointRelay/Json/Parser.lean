import CheckpointRelay.Json.Number
import CheckpointRelay.Json.Quoted
import CheckpointRelay.Text.Utf8

/-!
# Reading JSON

`Json.parse` reads one value that fills a whole text. Of members with one name the last counts.
-/

namespace CheckpointRelay.Json

open Text

/-- What follows the first letter of a word, with the value of the word. -/
def readWord (later : String) (value : Tree) (first : Char) (rest : List Char) :
    Except Error (Scanned (first :: rest) Tree) :=
  if later.toList.isPrefixOf rest then
    .ok ⟨value, rest.drop later.toList.length, Nat.lt_succ_of_le (List.drop_sublist _ _).length_le⟩
  else .error .unexpected

/-- A value other than a text, a list or a table. -/
def readScalar (first : Char) (rest : List Char) : Except Error (Scanned (first :: rest) Tree) :=
  if first = 'n' then readWord "ull" .null first rest
  else if first = 't' then readWord "rue" (.bool true) first rest
  else if first = 'f' then readWord "alse" (.bool false) first rest
  else if first = '-' then (readNumber true rest).map (·.behind first)
  else readNumber false (first :: rest)

/-- The name of a member. -/
def readName (input : List Char) : Except Error (Scanned input String) := do
  let quote ← readMarkOf '"' input
  return quote.andThen (fun _ cs => String.ofList cs) (← readText quote.rest)

mutual

/-- The value at the front of the input, after blanks, with `depth` levels of nesting still allowed. -/
def readValue (depth : Nat) (input : List Char) : Except Error (Scanned input Tree) := do
  let mark ← readMark input
  have hm := mark.shorter
  if mark.value = '"' then return mark.andThen (fun _ cs => .text (String.ofList cs)) (← readText mark.rest)
  else if mark.value = '[' then
    if depth = 0 then throw .tooDeep
    else
      let next ← readMark mark.rest
      if next.value = ']' then return mark.andThen (fun _ _ => .list []) next
      else return mark.andThen (fun _ items => .list items) (← readItems (depth - 1) mark.rest)
  else if mark.value = '\x7b' then
    if depth = 0 then throw .tooDeep
    else
      let next ← readMark mark.rest
      if next.value = '\x7d' then return mark.andThen (fun _ _ => .table []) next
      else return mark.andThen (fun _ members => .table members) (← readMembers (depth - 1) [] mark.rest)
  else return (← readScalar mark.value mark.rest).widen (Nat.succ_le_of_lt hm)
termination_by (input.length, 1)

/-- The items of a list, of which there is at least one, and the bracket that ends them. -/
def readItems (depth : Nat) (input : List Char) : Except Error (Scanned input (List Tree)) := do
  let v ← readValue depth input
  have := v.shorter
  let mark ← readMark v.rest
  have := mark.shorter
  if mark.value = ',' then return v.andThen List.cons (mark.followedBy (← readItems depth mark.rest))
  else if mark.value = ']' then return v.andThen (fun v _ => [v]) mark
  else throw .unexpected
termination_by (input.length, 2)

/-- The members of a table, of which there is at least one, after `earlier` ones, and the brace that ends them. -/
def readMembers (depth : Nat) (earlier : List (String × Tree)) (input : List Char) :
    Except Error (Scanned input (List (String × Tree))) := do
  let name ← readName input
  have := name.shorter
  let colon ← readMarkOf ':' name.rest
  have := colon.shorter
  let v ← readValue depth colon.rest
  have := v.shorter
  let mark ← readMark v.rest
  have := mark.shorter
  let members := Tree.insert earlier name.value v.value
  let front := ((name.followedBy colon).followedBy v).followedBy mark
  if mark.value = ',' then return front.followedBy (← readMembers depth members mark.rest)
  else if mark.value = '\x7d' then return front.map fun _ => members
  else throw .unexpected
termination_by (input.length, 2)

end

/-- The value that characters write. -/
def parseChars (cs : List Char) : Except Error Tree := do
  let v ← readValue 127 cs
  if skipBlanks v.rest = [] then return v.value else throw .trailing

/-- The value that a text writes. -/
def parse (s : String) : Except Error Tree :=
  parseChars s.toList

/-- The value that octets write. -/
def parseBytes (b : Bytes) : Except Error Tree :=
  match Utf8.decode b with
  | .ok s => parse s
  | .error _ => .error .notText

end CheckpointRelay.Json
