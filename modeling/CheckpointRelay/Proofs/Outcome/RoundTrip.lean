import CheckpointRelay.Outcome.Basic
import CheckpointRelay.Proofs.Json.Values
import CheckpointRelay.Proofs.Lookup

/-!
# An outcome reads back from every value that writes it

`Outcome.Writes` says that a value writes an outcome: its members are those of the record, in any order, and others with
names that the record does not have, and so are those of the transactions inside. Every such value is read as the
outcome (`Outcome.ofTree?_of_writes`). What is written of an outcome is one of them, and the reader of texts accepts it
(`Outcome.writes_toTree`, `Outcome.readable_toTree`).
-/

namespace CheckpointRelay

/-- The members that have the names of a record are those of the record, in any order; there may be others. -/
def Extends (names : List String) (record members : List (String × Tree)) : Prop :=
  (members.filter fun m => decide (m.1 ∈ names)).Perm record

namespace Extends

variable {names : List String} {record members : List (String × Tree)}

/-- A record extends itself. -/
theorem refl (h : ∀ m ∈ record, m.1 ∈ names) : Extends names record record := by
  unfold Extends
  rw [List.filter_eq_self.mpr fun m hm => decide_eq_true (h m hm)]

/-- Members with other names do not matter to what stands in the fields of the record. -/
theorem fields?_eq (h : Extends names record members) (hnodup : (record.map Prod.fst).Nodup) (surplus : Tree.Surplus) :
    (Tree.table members).fields? surplus names = (Tree.table record).fields? surplus names := by
  refine congrArg some (List.map_congr_left fun name hname => ?_)
  rw [← lookup_filter (p := fun n => decide (n ∈ names)) (decide_eq_true hname)]
  exact lookup_eq_of_perm h hnodup

end Extends

/-! ## Transactions inside -/

namespace InternalTransaction

/-- The members of the record. -/
def record (t : InternalTransaction) : List (String × Tree) :=
  [("hash", .text t.hash), ("caller_address", .text t.caller), ("transferTo_address", .text t.recipient),
    ("note", .text t.note), ("rejected", .bool t.rejected), ("extra", .text t.extra)]

/-- An inner transaction is written as the table of its record. -/
theorem toTree_eq (t : InternalTransaction) : t.toTree = .table t.record := rfl

/-- The value writes the transaction. -/
def Writes (t : InternalTransaction) (v : Tree) : Prop :=
  ∃ members, v = .table members ∧ Extends fieldNames t.record members

/-- The members of the record are named by the fields, in their order. -/
theorem names_record (t : InternalTransaction) : t.record.map Prod.fst = fieldNames := rfl

/-- No field stands twice in the record. -/
theorem nodup_record (t : InternalTransaction) : (t.record.map Prod.fst).Nodup := by
  rw [names_record]
  decide

/-- The written record writes the inner transaction. -/
theorem writes_toTree (t : InternalTransaction) : t.Writes t.toTree :=
  ⟨t.record, rfl, .refl fun _ hm => t.names_record ▸ List.mem_map_of_mem hm⟩

/-- An inner transaction is read back from its record. -/
theorem ofTree?_record (t : InternalTransaction) : ofTree? (.table t.record) = some t := rfl

/-- Whatever else a value says, it is read as the transaction that it writes. -/
theorem ofTree?_of_writes {t : InternalTransaction} {v : Tree} (h : t.Writes v) : ofTree? v = some t := by
  obtain ⟨members, rfl, hextends⟩ := h
  rw [← ofTree?_record t]
  unfold ofTree?
  rw [hextends.fields?_eq t.nodup_record]

end InternalTransaction

/-! ## Outcomes -/

/-- Values that are all read give the list of what they are read as. -/
theorem mapM_eq_some_of_forall₂ {α : Type} {read : Tree → Option α} {as : List α} {vs : List Tree}
    (h : List.Forall₂ (fun a v => read v = some a) as vs) : vs.mapM read = some as := by
  induction h with
  | nil => rfl
  | cons ha _ ih =>
    rw [List.mapM_cons, ha, ih]
    rfl

namespace Outcome

/-- The members of the record, with these values for the transactions inside. -/
def record (o : Outcome) (inside : List Tree) : List (String × Tree) :=
  [("id", .text o.id), ("blockNumber", .integer o.blockNumber.toNat),
    ("blockTimeStamp", .integer o.blockTimestamp.toNat),
    ("contractResult", .list (o.contractResult.map .text))] ++ optionalMember "result" o.result ++
  optionalMember "resMessage" o.message ++ [("internal_transactions", .list inside)]

/-- An outcome is written as the table of its record, with the inner transactions written first. -/
theorem toTree_eq (o : Outcome) : o.toTree = .table (o.record (o.internal.map InternalTransaction.toTree)) := rfl

/-- The value writes the outcome: its members are those of the record, and others with names that the record does not
have. -/
def Writes (o : Outcome) (v : Tree) : Prop :=
  ∃ inside members, v = .table members ∧ List.Forall₂ InternalTransaction.Writes o.internal inside ∧
    Extends fieldNames (o.record inside) members

section

variable {o : Outcome} {v : Tree} {inside : List Tree}

/-- The members of a record stand in the order of its fields, and two of them may be left out. -/
theorem names_record (o : Outcome) (inside : List Tree) : ((o.record inside).map Prod.fst).Sublist fieldNames := by
  have hall : ∀ result message : Bool, (["id", "blockNumber", "blockTimeStamp", "contractResult"] ++
      (if result then ["result"] else []) ++ (if message then ["resMessage"] else []) ++
        ["internal_transactions"]).Sublist fieldNames := by
    decide
  have hnames : (o.record inside).map Prod.fst = ["id", "blockNumber", "blockTimeStamp", "contractResult"] ++
      (if o.result.isSome then ["result"] else []) ++ (if o.message.isSome then ["resMessage"] else []) ++
        ["internal_transactions"] := by
    unfold record
    cases o.result <;> cases o.message <;> rfl
  rw [hnames]
  exact hall _ _

/-- No field stands twice in the record of an outcome. -/
theorem nodup_record (o : Outcome) (inside : List Tree) : ((o.record inside).map Prod.fst).Nodup := by
  have hnames : fieldNames.Nodup := by decide
  exact hnames.sublist (o.names_record inside)

/-- What is written of an outcome writes it. -/
theorem writes_toTree (o : Outcome) : o.Writes o.toTree := by
  refine ⟨_, _, o.toTree_eq, ?_, .refl fun _ hm => (o.names_record _).subset (List.mem_map_of_mem hm)⟩
  rw [List.forall₂_map_right_iff, List.forall₂_same]
  exact fun t _ => t.writes_toTree

/-- The fields of a written outcome are found one by one, whatever is done with surplus members. -/
theorem fields?_record (o : Outcome) (inside : List Tree) (surplus : Tree.Surplus) :
    (Tree.table (o.record inside)).fields? surplus fieldNames =
      some [some (.text o.id), some (.integer o.blockNumber.toNat), some (.integer o.blockTimestamp.toNat),
        some (.list (o.contractResult.map .text)), o.result.map .text, o.message.map .text, some (.list inside)] := by
  unfold record
  cases o.result <;> cases o.message <;> rfl

/-! Each field is read from what is written for it. -/

/-- A number of sixty-four bits that is written is read back, and its default is not taken. -/
theorem withDefault_uint64? (n : UInt64) : Tree.withDefault 0 Tree.uint64? (some (.integer n.toNat)) = some n := by
  have hlt : n.toNat < UInt64.size := n.toNat_lt_size
  have hrange : (0 : Int) ≤ n.toNat ∧ (n.toNat : Int) < UInt64.size := by omega
  rw [Tree.withDefault, Tree.uint64?, if_pos hrange, Int.toNat_natCast, UInt64.ofNat_toNat]

/-- A list whose items are read back is read back, and its default is not taken. -/
theorem withDefault_listOf? {α : Type} {read : Tree → Option α} {as : List α} {vs : List Tree}
    (h : List.Forall₂ (fun a v => read v = some a) as vs) :
    Tree.withDefault [] (Tree.listOf? read) (some (.list vs)) = some as :=
  mapM_eq_some_of_forall₂ h

/-- A text that may be absent is read back. -/
theorem optional_text? (field : Option String) : Tree.optional Tree.text? (field.map .text) = some field := by
  cases field <;> rfl

/-- An outcome is read back from its record, when each inner transaction is read back. -/
theorem ofTree?_record (h : List.Forall₂ InternalTransaction.Writes o.internal inside) :
    ofTree? (.table (o.record inside)) = some o := by
  have hid : Tree.withDefault "" Tree.text? (some (.text o.id)) = some o.id := rfl
  have hresults : List.Forall₂ (fun s v => Tree.text? v = some s) o.contractResult
      (o.contractResult.map Tree.text) := by
    rw [List.forall₂_map_right_iff, List.forall₂_same]
    exact fun _ _ => rfl
  have hinside : List.Forall₂ (fun t v => InternalTransaction.ofTree? v = some t) o.internal inside :=
    h.imp fun t v => InternalTransaction.ofTree?_of_writes
  unfold ofTree?
  simp only [Option.bind_eq_bind]
  rw [fields?_record, Option.bind_some]
  dsimp only
  rw [hid, Option.bind_some, withDefault_uint64?, Option.bind_some, withDefault_uint64?, Option.bind_some,
    withDefault_listOf? hresults, Option.bind_some, optional_text?, Option.bind_some, optional_text?, Option.bind_some,
    withDefault_listOf? hinside, Option.bind_some, Option.pure_def]

/-- Whatever else a value says, it is read as the outcome that it writes. -/
theorem ofTree?_of_writes (h : o.Writes v) : ofTree? v = some o := by
  obtain ⟨inside, members, rfl, hinside, hextends⟩ := h
  rw [← ofTree?_record hinside]
  unfold ofTree?
  rw [hextends.fields?_eq (o.nodup_record inside)]

/-! ### As text -/

/-- A transaction inside is a value that the reader accepts. -/
theorem readable_inside {depth : Nat} (t : InternalTransaction) : Json.Readable (depth + 1) t.toTree := by
  rw [t.toTree_eq]
  refine .table t.nodup_record ?_
  simp only [InternalTransaction.record, List.forall_mem_cons]
  exact ⟨.text _ _, .text _ _, .text _ _, .text _ _, .bool _ _, .text _ _, List.forall_mem_nil _⟩

/-- A number of sixty-four bits is a value that the JSON reader accepts. -/
theorem readable_number {depth : Nat} (n : UInt64) : Json.Readable depth (.integer n.toNat) := by
  have hlt : n.toNat < UInt64.size := n.toNat_lt_size
  have hleast : Int64.minValue.toInt ≤ 0 := by decide
  exact .integer depth (by omega) (by omega)

/-- So is the text of a member that may be absent. -/
theorem readable_optionalMember {depth : Nat} {name : String} (field : Option String) :
    ∀ m ∈ optionalMember name field, Json.Readable depth m.2 := by
  cases field with
  | none => nofun
  | some s =>
    intro m hm
    rw [List.mem_singleton.mp hm]
    exact .text _ _

/-- What is written of an outcome is a value that the reader accepts. -/
theorem readable_toTree (o : Outcome) : Json.Readable 127 o.toTree := by
  have hresults : ∀ item ∈ o.contractResult.map Tree.text, Json.Readable 125 item :=
    List.forall_mem_map.mpr fun s _ => .text _ s
  have hinside : ∀ item ∈ o.internal.map InternalTransaction.toTree, Json.Readable 125 item :=
    List.forall_mem_map.mpr fun t _ => readable_inside t
  rw [o.toTree_eq]
  refine .table (o.nodup_record _) ?_
  simp only [record, List.forall_mem_append, List.forall_mem_cons]
  exact ⟨⟨⟨⟨.text _ _, readable_number _, readable_number _, .list hresults, List.forall_mem_nil _⟩,
    readable_optionalMember _⟩, readable_optionalMember _⟩, .list hinside, List.forall_mem_nil _⟩

end

end Outcome

end CheckpointRelay
