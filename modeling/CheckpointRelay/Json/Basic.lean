import CheckpointRelay.Text.Scan
import CheckpointRelay.Tree.Basic

/-!
# Tokens of JSON

Why a text is no JSON value, and the blanks between its tokens.
-/

namespace CheckpointRelay.Json

open Text

/-- Why a text is no value. -/
inductive Error
  /-- The text ends inside a value. -/
  | unfinished
  /-- A character stands where it cannot. -/
  | unexpected
  /-- Lists and tables are nested more than 127 levels deep. -/
  | tooDeep
  /-- A number is too large for a double. -/
  | outOfRange
  /-- A surrogate stands alone. -/
  | loneSurrogate
  /-- A text holds a control character. -/
  | controlCharacter
  /-- A character follows the value. -/
  | trailing
  /-- The octets are not UTF-8. -/
  | notText
  deriving DecidableEq, Repr

/-- The wording of a reading error. -/
def Error.message : Error → String
  | .unfinished => "EOF while parsing a value"
  | .unexpected => "expected value"
  | .tooDeep => "recursion limit exceeded"
  | .outOfRange => "number out of range"
  | .loneSurrogate => "lone leading surrogate in hex escape"
  | .controlCharacter => "control character found while parsing a string"
  | .trailing => "trailing characters"
  | .notText => "invalid unicode code point"

/-- The four characters that may stand between tokens. -/
def isBlank (c : Char) : Bool :=
  c = ' ' || c = '\t' || c = '\n' || c = '\r'

/-- The characters after blanks. -/
def skipBlanks (cs : List Char) : List Char :=
  cs.dropWhile isBlank

/-- The first character that is not blank. -/
def readMark (input : List Char) : Except Error (Scanned input Char) :=
  match Scanned.first? (skipBlanks input) with
  | some mark => .ok (mark.widen (length_dropWhile_le isBlank input))
  | none => .error .unfinished

/-- The first character that is not blank, which must be this one. -/
def readMarkOf (c : Char) (input : List Char) : Except Error (Scanned input Char) := do
  let mark ← readMark input
  if mark.value = c then return mark else throw .unexpected

end CheckpointRelay.Json
