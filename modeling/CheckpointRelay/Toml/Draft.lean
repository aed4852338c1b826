import CheckpointRelay.Toml.Basic

/-!
# TOML: tables under construction

The statements of a document build its tables bit by bit. Each table remembers how it came to be, because a header opens
a table once, and because dotted keys add only to tables that dotted keys made.
-/

namespace CheckpointRelay.Toml

/-- A key with the tables that it leads through. -/
structure Key where
  path : List String
  name : String
  deriving DecidableEq, Inhabited

/-- How a table came to be. -/
inductive Origin
  /-- A header or a value. -/
  | named
  /-- The header of a table inside it. -/
  | implied
  /-- A dotted key. -/
  | dotted
  deriving DecidableEq

/-- A value or a table, as far as it is built. -/
inductive Draft
  | value (v : Tree)
  | table (origin : Origin) (members : List (String × Draft))
  /-- Tables that headers in double brackets opened; the last of them is the one under construction. -/
  | array (tables : List Draft)

/-- The members of a table under construction. -/
abbrev Members := List (String × Draft)

namespace Members

/-- The members with one in place of another of its name. -/
def replace (name : String) (d : Draft) (members : Members) : Members :=
  members.map fun m => if m.1 = name then (name, d) else m

/-- Changes the table under a path. Tables that are missing on the way are made; where the path is part of a dotted key,
tables that headers opened cannot be entered. -/
def within (dotted : Bool) (change : Origin → Members → Except Error Members) :
    List String → Origin → Members → Except Error Members
  | [], origin, members => change origin members
  | name :: path, _, members =>
    match members.lookup name with
    | none => do
      let made : Origin := if dotted then .dotted else .implied
      let inner ← within dotted change path made []
      return members ++ [(name, .table made inner)]
    | some (.value _) => .error (.notTable name)
    | some (.table origin inner) =>
      if dotted ∧ origin = .named then .error (.duplicate name)
      else do
        let inner ← within dotted change path origin inner
        return members.replace name (.table origin inner)
    | some (.array tables) =>
      match tables.getLast? with
      | some (.table origin inner) => do
        let inner ← within dotted change path origin inner
        return members.replace name (.array (tables.dropLast ++ [.table origin inner]))
      | _ => .error (.notTable name)

/-- Adds a member. Behind a path, it must be a table of dotted keys to which it is added. -/
def put (k : Key) (v : Tree) : Origin → Members → Except Error Members :=
  within true (fun origin members =>
    if (members.lookup k.name).isSome ∨ (k.path ≠ [] ∧ origin ≠ .dotted) then .error (.duplicate k.name)
    else .ok (members ++ [(k.name, .value v)])) k.path

/-- Opens a table. One that is there already must have been implied by the headers of tables inside it. -/
def openTable (k : Key) : Origin → Members → Except Error Members :=
  within false (fun _ members =>
    match members.lookup k.name with
    | none => .ok (members ++ [(k.name, .table .named [])])
    | some (.table .implied inner) => .ok (members.replace k.name (.table .named inner))
    | some _ => .error (.duplicate k.name)) k.path

/-- Opens one more table of an array. -/
def openItem (k : Key) : Origin → Members → Except Error Members :=
  within false (fun _ members =>
    match members.lookup k.name with
    | none => .ok (members ++ [(k.name, .array [.table .named []])])
    | some (.array tables) => .ok (members.replace k.name (.array (tables ++ [.table .named []])))
    | some _ => .error (.duplicate k.name)) k.path

/-- Adds a member to the table under a path, which a header opened. -/
def putUnder (path : List String) (k : Key) (v : Tree) : Members → Except Error Members :=
  within false (put k v) path .named

end Members

mutual

/-- The finished value. -/
def Draft.finish : Draft → Tree
  | .value v => v
  | .table _ members => .table (finishMembers members)
  | .array tables => .list (finishItems tables)

/-- The finished members of a table. -/
def finishMembers : List (String × Draft) → List (String × Tree)
  | [] => []
  | (name, d) :: rest => (name, d.finish) :: finishMembers rest

/-- The finished tables of an array. -/
def finishItems : List Draft → List Tree
  | [] => []
  | d :: rest => d.finish :: finishItems rest

end

/-- The table of members given by keys, within one value. -/
def tableOf (members : List (Key × Tree)) : Except Error Tree := do
  let drafts ← members.foldlM (fun drafts (m : Key × Tree) => Members.put m.1 m.2 .named drafts) []
  return .table (finishMembers drafts)

end CheckpointRelay.Toml
