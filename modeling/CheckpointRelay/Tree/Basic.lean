import CheckpointRelay.Bytes

/-!
# Data trees

Values as text formats write them: scalars, lists and tables with named members. A record is read from a table by the
names of its fields, or from a list by their order (`Tree.fields?`), and each field is read by its type.
-/

namespace CheckpointRelay

/-- A value as a text format writes it. -/
inductive Tree
  | null
  | bool (b : Bool)
  | integer (n : Int)
  /-- A number that is no integer, by its text. -/
  | real (text : String)
  | text (s : String)
  | list (items : List Tree)
  /-- Members by name, each name once. -/
  | table (members : List (String × Tree))
  deriving Inhabited

namespace Tree

/-- The member of a table with a name. -/
def get? (name : String) : Tree → Option Tree
  | .table members => members.lookup name
  | _ => none

/-- A text. -/
def text? : Tree → Option String
  | .text s => some s
  | _ => none

/-- A truth value. -/
def bool? : Tree → Option Bool
  | .bool b => some b
  | _ => none

/-- A list. -/
def list? : Tree → Option (List Tree)
  | .list items => some items
  | _ => none

/-- An integer of sixty-four bits without sign. -/
def uint64? : Tree → Option UInt64
  | .integer n => if 0 ≤ n ∧ n < UInt64.size then some (UInt64.ofNat n.toNat) else none
  | _ => none

/-- An integer of thirty-two bits without sign. -/
def uint32? : Tree → Option UInt32
  | .integer n => if 0 ≤ n ∧ n < UInt32.size then some (UInt32.ofNat n.toNat) else none
  | _ => none

/-- A list of values that can all be read. -/
def listOf? {α : Type} (read : Tree → Option α) (t : Tree) : Option (List α) :=
  t.list? >>= List.mapM read

/-- How a list that stands for a record may be longer than the record has fields. -/
inductive Surplus
  /-- Items beyond the fields are refused. -/
  | refused
  /-- Items beyond the fields are ignored. -/
  | ignored
  deriving DecidableEq

/-- What stands in the fields of a record: in a table the members with their names, in a list the items in their order.
Members with other names are ignored. -/
def fields? (surplus : Surplus) (names : List String) : Tree → Option (List (Option Tree))
  | .table members => some (names.map fun name => members.lookup name)
  | .list items =>
    if surplus = .refused ∧ names.length < items.length then none
    else some ((List.range names.length).map fun i => items[i]?)
  | _ => none

/-- A field that must be there. -/
def required {α : Type} (read : Tree → Option α) (field : Option Tree) : Option α :=
  field >>= read

/-- A field with a value for its absence. -/
def withDefault {α : Type} (absent : α) (read : Tree → Option α) : Option Tree → Option α
  | none => some absent
  | some t => read t

/-- A field that may be absent or null. -/
def optional {α : Type} (read : Tree → Option α) : Option Tree → Option (Option α)
  | none => some none
  | some .null => some none
  | some t => (read t).map some

/-- A table with one more member, in place of an earlier one with its name. -/
def insert (members : List (String × Tree)) (name : String) (value : Tree) : List (String × Tree) :=
  if members.any (·.1 = name) then
    members.map fun m => if m.1 = name then (name, value) else m
  else members ++ [(name, value)]

/-- Whether `mantissa · 10 ^ exponent` rounds to a double: it is below the largest double and half its last place. -/
def fitsDouble (mantissa : Nat) (exponent : Int) : Bool :=
  let size : Int := (toString mantissa).length + exponent
  if mantissa = 0 ∨ size < 300 then true
  else if 320 < size then false
  else
    let bound := Nat.pow 2 1024 - Nat.pow 2 970
    if 0 ≤ exponent then mantissa * Nat.pow 10 exponent.toNat < bound
    else mantissa < bound * Nat.pow 10 (-exponent).toNat

end Tree

end CheckpointRelay
