import CheckpointRelay.Toml.Value

/-!
# TOML: documents

A document is a sequence of statements, each on a line of its own: headers, which open a table, and members of the table
that was opened last. `statements` reads them, `ofStatements` builds the table that they describe, and `parse` does
both.
-/

namespace CheckpointRelay.Toml

open Text

/-- A statement of a document. -/
inductive Statement
  /-- A table is opened. -/
  | header (k : Key)
  /-- A table is opened as the next of an array. -/
  | itemHeader (k : Key)
  /-- The table that is open gets a member. -/
  | member (k : Key) (v : Tree)

/-! ## Reading -/

/-- A header, whose first bracket has been read. -/
def readHeader (input : List Char) : Except Error (Scanned input Statement) :=
  match input with
  | '[' :: inner => do
    let key ← readKey inner
    have hk := key.shorter
    match h : key.rest with
    | ']' :: ']' :: rest =>
      return ⟨.itemHeader key.value, rest, by rw [h] at hk; simp only [List.length_cons] at hk ⊢; omega⟩
    | _ => throw .unexpected
  | input => do
    let key ← readKey input
    have hk := key.shorter
    match h : key.rest with
    | ']' :: rest => return ⟨.header key.value, rest, by rw [h] at hk; simp only [List.length_cons] at hk; omega⟩
    | _ => throw .unexpected

/-- A member. -/
def readMember (input : List Char) : Except Error (Scanned input Statement) := do
  let key ← readKey input
  have hk := key.shorter
  match h : key.rest with
  | '=' :: rest => do
    have hb := length_skipBlanks_le rest
    let v ← readValue nestingLimit (skipBlanks rest)
    return ⟨.member key.value v.value, v.rest,
      by have := v.shorter; rw [h] at hk; simp only [List.length_cons] at hk; omega⟩
  | _ => throw .unexpected

/-- A statement. -/
def readStatement (input : List Char) : Except Error (Scanned input Statement) :=
  match input with
  | '[' :: rest => do
    return (← readHeader rest).behind '['
  | input => readMember input

/-- The statements of lines, of which some are blank or hold a comment alone. -/
def readStatements (input : List Char) : Except Error (List Statement) := do
  have hi := length_skipBlanks_le input
  match h : skipBlanks input with
  | [] => return []
  | c :: cs =>
    if c = '#' ∨ c = '\n' ∨ c = '\r' then
      match he : endLine (c :: cs) with
      | .error e => throw e
      | .ok rest => do
        have : rest.length < input.length := by have := length_endLine he (by simp); rw [h] at hi; omega
        readStatements rest
    else do
      let s ← readStatement (c :: cs)
      have hs := s.shorter
      match he : endLine s.rest with
      | .error e => throw e
      | .ok rest => do
        have : rest.length < input.length := by
          rw [h] at hi
          by_cases hr : s.rest = []
          · rw [hr] at he
            simp [endLine, skipBlanks, skipComment] at he
            subst he
            simp only [List.length_nil, List.length_cons] at hi ⊢
            omega
          · have := length_endLine he hr; omega
        return s.value :: (← readStatements rest)
termination_by input.length

/-- The statements of a document, which may start with a byte order mark. -/
def statements (s : String) : Except Error (List Statement) :=
  match s.toList with
  | '\uFEFF' :: rest => readStatements rest
  | cs => readStatements cs

/-! ## Meaning -/

/-- A document as far as its statements are carried out. -/
structure State where
  /-- Its tables. -/
  members : Members := []
  /-- The path of the table that is open. -/
  opened : List String := []

/-- Carries out one statement. -/
def State.apply (s : State) : Statement → Except Error State
  | .header k => do return ⟨← Members.openTable k .named s.members, k.path ++ [k.name]⟩
  | .itemHeader k => do return ⟨← Members.openItem k .named s.members, k.path ++ [k.name]⟩
  | .member k v => do return { s with members := ← Members.putUnder s.opened k v s.members }

/-- The table that statements describe. -/
def ofStatements (statements : List Statement) : Except Error Tree := do
  let s ← statements.foldlM State.apply {}
  return .table (finishMembers s.members)

/-- The table that a document describes. -/
def parse (s : String) : Except Error Tree := do
  ofStatements (← statements s)

end CheckpointRelay.Toml
