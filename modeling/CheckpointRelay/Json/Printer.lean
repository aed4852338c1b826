import CheckpointRelay.Text.Quoted
import CheckpointRelay.Tree.Basic

/-!
# Writing JSON

`Json.render` writes a value without blanks.
-/

namespace CheckpointRelay.Json

open Text

mutual

/-- The characters of a value. -/
def renderChars : Tree → List Char
  | .null => "null".toList
  | .bool true => "true".toList
  | .bool false => "false".toList
  | .integer n => (toString n).toList
  | .real text => text.toList
  | .text s => jsonLiteralChars s.toList
  | .list items => '[' :: renderItems items ++ [']']
  | .table members => '\x7b' :: renderMembers members ++ ['\x7d']

/-- The characters of values, with commas between them. -/
def renderItems : List Tree → List Char
  | [] => []
  | [item] => renderChars item
  | item :: rest => renderChars item ++ ',' :: renderItems rest

/-- The characters of members, with commas between them. -/
def renderMembers : List (String × Tree) → List Char
  | [] => []
  | [(name, value)] => jsonLiteralChars name.toList ++ ':' :: renderChars value
  | (name, value) :: rest => jsonLiteralChars name.toList ++ ':' :: renderChars value ++ ',' :: renderMembers rest

end

/-- The text of a value. -/
def render (t : Tree) : String :=
  String.ofList (renderChars t)

end CheckpointRelay.Json
