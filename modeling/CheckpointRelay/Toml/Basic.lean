import CheckpointRelay.Text.Scan
import CheckpointRelay.Tree.Basic

/-!
# TOML: errors and blanks

Why a text is no document, and what may stand between its parts: spaces and tabs, comments to the end of a line, and
line ends, which are a line feed with or without a carriage return.
-/

namespace CheckpointRelay.Toml

open Text

/-- Why a text is no document. -/
inductive Error
  /-- The text ends inside a statement. -/
  | unfinished
  /-- A character stands where it cannot. -/
  | unexpected
  /-- A text or a comment holds a control character. -/
  | controlCharacter
  /-- An escape stands for no character. -/
  | badEscape
  /-- A number, a date or a time is out of range. -/
  | outOfRange
  /-- Lists and tables are nested, or a key is dotted, eighty levels deep. -/
  | tooDeep
  /-- A key is given twice. -/
  | duplicate (name : String)
  /-- Something is added to a value that is no table. -/
  | notTable (name : String)
  deriving DecidableEq, Repr

/-- The wording of a reading error. -/
def Error.message : Error → String
  | .unfinished => "TOML parse error: unexpected end of file"
  | .unexpected => "TOML parse error: unexpected character"
  | .controlCharacter => "TOML parse error: control character"
  | .badEscape => "TOML parse error: invalid escape sequence"
  | .outOfRange => "TOML parse error: value is out of range"
  | .tooDeep => "TOML parse error: recursion limit exceeded"
  | .duplicate name => s!"TOML parse error: duplicate key: {name}"
  | .notTable name => s!"TOML parse error: {name} is no table"

/-- Whether a character can stand in a text or a comment: tabs and everything but control characters of ASCII. -/
def isPlain (c : Char) : Bool :=
  c = '\t' || (0x20 ≤ c.toNat && c.toNat ≠ 0x7F)

/-- A space or a tab. -/
def isBlank (c : Char) : Bool :=
  c = ' ' || c = '\t'

/-- The characters after spaces and tabs. -/
def skipBlanks (cs : List Char) : List Char :=
  cs.dropWhile isBlank

/-- The characters after spaces, tabs and line ends. -/
def skipLines : List Char → List Char
  | [] => []
  | '\r' :: '\n' :: rest => skipLines rest
  | c :: rest => if isBlank c || c = '\n' then skipLines rest else c :: rest

/-- The characters after spaces, tabs, line ends and comments. -/
def skipTrivia (cs : List Char) : List Char :=
  match cs with
  | [] => []
  | '#' :: rest => skipTrivia (rest.dropWhile isPlain)
  | '\r' :: '\n' :: rest => skipTrivia rest
  | c :: rest => if isBlank c || c = '\n' then skipTrivia rest else c :: rest
termination_by cs.length
decreasing_by
  · have := length_dropWhile_le isPlain rest; simp only [List.length_cons]; omega
  · simp only [List.length_cons]; omega
  · simp only [List.length_cons]; omega

/-- The characters after a comment, if there is one. -/
def skipComment : List Char → List Char
  | '#' :: rest => rest.dropWhile isPlain
  | cs => cs

/-- The characters after the end of a line, in front of which there may be blanks and a comment. -/
def endLine (cs : List Char) : Except Error (List Char) :=
  match skipComment (skipBlanks cs) with
  | [] => .ok []
  | '\n' :: rest => .ok rest
  | '\r' :: '\n' :: rest => .ok rest
  | _ => .error .unexpected

/-- Skipping blanks does not lengthen. -/
theorem length_skipBlanks_le (cs : List Char) : (skipBlanks cs).length ≤ cs.length :=
  length_dropWhile_le _ _

/-- What stands behind the first character that is no blank is shorter than the text. -/
theorem length_lt_of_skipBlanks {c : Char} {cs rest : List Char} (h : skipBlanks cs = c :: rest) :
    rest.length < cs.length := by
  have hs := length_skipBlanks_le cs
  rw [h, List.length_cons] at hs
  omega

/-- Skipping blank lines does not lengthen. -/
theorem length_skipLines_le (cs : List Char) : (skipLines cs).length ≤ cs.length := by
  induction cs using skipLines.induct with
  | case1 => simp [skipLines]
  | case2 rest ih => simp only [skipLines, List.length_cons]; omega
  | case3 c rest h hb ih => grind [skipLines]
  | case4 c rest h hb => grind [skipLines]

/-- Skipping blanks, lines and comments does not lengthen. -/
theorem length_skipTrivia_le (cs : List Char) : (skipTrivia cs).length ≤ cs.length := by
  induction cs using skipTrivia.induct with
  | case1 => simp [skipTrivia]
  | case2 rest ih => have := length_dropWhile_le isPlain rest; rw [skipTrivia, List.length_cons]; omega
  | case3 rest ih => rw [skipTrivia]; simp only [List.length_cons]; omega
  | case4 c rest h h' hb ih => rw [skipTrivia] <;> grind
  | case5 c rest h h' hb => rw [skipTrivia] <;> grind

/-- What stands behind the first character of a value is shorter than the text. -/
theorem length_lt_of_skipTrivia {c : Char} {cs rest : List Char} (h : skipTrivia cs = c :: rest) :
    rest.length < cs.length := by
  have hs := length_skipTrivia_le cs
  rw [h, List.length_cons] at hs
  omega

/-- Skipping a comment does not lengthen. -/
theorem length_skipComment_le (cs : List Char) : (skipComment cs).length ≤ cs.length := by
  unfold skipComment
  split
  · have := length_dropWhile_le isPlain ‹_›; simp only [List.length_cons]; omega
  · exact Nat.le_refl _

/-- The end of a line leaves less than there was, unless there was nothing. -/
theorem length_endLine {cs rest : List Char} (h : endLine cs = .ok rest) (hc : cs ≠ []) : rest.length < cs.length := by
  have hb := length_skipBlanks_le cs
  have hs := length_skipComment_le (skipBlanks cs)
  have hpos := List.length_pos_iff.mpr hc
  unfold endLine at h
  split at h <;> grind

end CheckpointRelay.Toml
