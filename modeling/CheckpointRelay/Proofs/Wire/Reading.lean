import CheckpointRelay.Proofs.Result
import CheckpointRelay.Proofs.Text.Utf8
import CheckpointRelay.Wire.Message

/-!
# What is written can be read back

Numbers, keys and octets read back from the front of any input that they start. A message takes in the fields that it
writes, one after the other: `Absorbs take depth b m m'` says that reading `b` turns `m` into `m'`, whatever follows. A
message whose own encoding turns the empty message into it decodes from that encoding (`decode_of_absorbs`).
-/

namespace CheckpointRelay.Wire

variable {α β : Type}

/-- A reading gives a value and leaves the rest, which is shorter than the input. -/
def Takes {input : Bytes} (r : Reading (Taken input α)) (value : α) (rest : Bytes) : Prop :=
  ∃ shorter, r = .ok ⟨value, rest, shorter⟩

/-- A reading gives a value and leaves the rest. -/
def Yields {input : Bytes} (r : Reading (Left input α)) (value : α) (rest : Bytes) : Prop :=
  ∃ le, r = .ok ⟨value, rest, le⟩

/-! ## Numbers, keys and octets -/

/-- A number is written in at most one octet more than it counts. -/
theorem length_varint_le (n : Nat) : (varint n).length ≤ n + 1 := by
  induction n using varint.induct with
  | case1 n h =>
    rw [varint, if_pos h]
    exact Nat.le_add_left 1 n
  | case2 n h ih =>
    rw [varint, if_neg h, List.length_cons]
    omega

/-- A number below 128 is read from its one octet. -/
theorem readVarint?_octet (limit : Nat) {n : Nat} (hn : n < 128) (hlast : limit = 0 → n ≤ 1) (rest : Bytes) :
    ∃ shorter, readVarint? (limit + 1) (varint n ++ rest) = some ⟨n, rest, shorter⟩ := by
  have hvalue : (UInt8.ofNat n).toNat = n := Bytes.toNat_octet (Nat.lt_trans hn (by decide))
  have hsmall : UInt8.ofNat n < 128 := UInt8.lt_iff_toNat_lt.mpr (hvalue.symm ▸ hn)
  have hfits : ¬(limit = 0 ∧ 1 < UInt8.ofNat n) := by
    rintro ⟨hl, hlt⟩
    have : 1 < n := hvalue ▸ UInt8.lt_iff_toNat_lt.mp hlt
    exact absurd (hlast hl) (Nat.not_le_of_lt this)
  rw [varint, if_pos hn]
  simp only [List.singleton_append, readVarint?, if_pos hsmall, if_neg hfits]
  exact ⟨by simp, by congr⟩

/-- The numbers below this one have `limit + 1` octets at most, of which the last is at most one if they have as
many. -/
def varintBound : (limit : Nat) → Nat
  | 0 => 2
  | limit + 1 => varintBound limit * 128

/-- A number below the bound of its octets is read back. -/
theorem readVarint?_varint (limit : Nat) {n : Nat} (h : n < varintBound limit) (rest : Bytes) :
    ∃ shorter, readVarint? (limit + 1) (varint n ++ rest) = some ⟨n, rest, shorter⟩ := by
  induction limit generalizing n with
  | zero =>
    have hn : n < 2 := h
    exact readVarint?_octet 0 (by omega) (by omega) rest
  | succ limit ih =>
    by_cases hn : n < 128
    · exact readVarint?_octet (limit + 1) hn nofun rest
    · have hquotient : n / 128 < varintBound limit := (Nat.div_lt_iff_lt_mul (by decide)).mpr h
      obtain ⟨shorter, hrest⟩ := ih hquotient
      have hvalue : (UInt8.ofNat (n % 128 + 128)).toNat = n % 128 + 128 := Bytes.toNat_octet (by omega)
      have hlarge : ¬UInt8.ofNat (n % 128 + 128) < 128 := by
        intro hlt
        have : n % 128 + 128 < 128 := hvalue ▸ UInt8.lt_iff_toNat_lt.mp hlt
        omega
      have hsum : (UInt8.ofNat (n % 128 + 128)).toNat - 128 + 128 * (n / 128) = n := by
        rw [hvalue]
        omega
      rw [varint, if_neg hn]
      simp only [List.cons_append, readVarint?, if_neg hlarge, hrest]
      exact ⟨Nat.lt_succ_of_lt shorter, by simp only [hsum]⟩

/-- A number of sixty-four bits reads back. -/
theorem readVarint_varint {n : Nat} (h : n < UInt64.size) (rest : Bytes) :
    Takes (readVarint (varint n ++ rest)) n rest := by
  obtain ⟨shorter, hread⟩ := readVarint?_varint 9 h rest
  exact ⟨shorter, by simp only [readVarint, hread]⟩

/-- The kind of a field is read back from its code. -/
theorem ofCode?_code (kind : Kind) : Kind.ofCode? kind.code = some kind := by
  cases kind <;> rfl

/-- The code of a kind fits three bits. -/
theorem code_lt (kind : Kind) : kind.code < 8 := by
  cases kind <;> decide

/-- Whether a field number is one of those that are written. -/
def Key.Valid (key : Key) : Prop :=
  0 < key.number ∧ (key.number + 1) * 8 ≤ UInt32.size

/-- The key of a field is read back. -/
theorem readKey_encode {key : Key} (h : key.Valid) (rest : Bytes) : Takes (readKey (key.encode ++ rest)) key rest := by
  have hcode := code_lt key.kind
  have hsize : key.number * 8 + key.kind.code < UInt32.size := by
    have := h.2
    omega
  obtain ⟨shorter, hread⟩ := readVarint_varint (Nat.lt_trans hsize (by decide)) rest
  have hkind : (key.number * 8 + key.kind.code) % 8 = key.kind.code := by omega
  have hnumber : (key.number * 8 + key.kind.code) / 8 = key.number := by omega
  have hpositive : key.number ≠ 0 := Nat.pos_iff_ne_zero.mp h.1
  unfold Key.encode readKey
  rw [hread]
  refine ⟨shorter, ?_⟩
  dsimp only [bind, Except.bind]
  rw [if_neg (Nat.not_le_of_lt hsize)]
  simp only [hkind, hnumber, ofCode?_code, if_neg hpositive]
  rfl

/-- Octets behind their number read back. -/
theorem readDelimited_append {b : Bytes} (h : b.length < UInt64.size) (rest : Bytes) :
    Takes (readDelimited (varint b.length ++ b ++ rest)) b rest := by
  rw [List.append_assoc]
  obtain ⟨shorter, hread⟩ := readVarint_varint h (b ++ rest)
  have hle : b.length ≤ (b ++ rest).length := by simp
  unfold readDelimited
  rw [hread]
  dsimp only [bind, Except.bind]
  simp only [readOctets, if_pos hle, List.take_left, List.drop_left]
  exact ⟨_, rfl⟩

/-! ## Fields -/

/-- Reading the octets `b`, the fields of a message `m` turn it into `m'`, whatever follows them. -/
def Absorbs (take : TakeField α) (depth : Nat) (b : Bytes) (m m' : α) : Prop :=
  ∀ limit rest last res, limit ≤ rest.length → Yields (takeFields take depth limit m' rest) last res →
    Yields (takeFields take depth limit m (b ++ rest)) last res

section

variable {take : TakeField α} {depth : Nat} {m m' m'' : α}

/-- No octets are absorbed without a change. -/
theorem Absorbs.nil (m : α) : Absorbs take depth [] m m :=
  fun _ _ _ _ _ h => h

/-- Octets absorbed one part behind the other are absorbed as a whole. -/
theorem Absorbs.append {b b' : Bytes} (h : Absorbs take depth b m m') (h' : Absorbs take depth b' m' m'') :
    Absorbs take depth (b ++ b') m m'' := by
  intro limit rest last res hl hr
  rw [List.append_assoc]
  refine h limit (b' ++ rest) last res ?_ (h' limit rest last res hl hr)
  rw [List.length_append]
  exact Nat.le_trans hl (Nat.le_add_left _ _)

/-- As long as there is more input than is to be left, the next field is taken in. -/
theorem takeFields_step {limit : Nat} {input rest rest' res : Bytes} {key : Key} {last : α}
    (hlong : ¬input.length ≤ limit) (hkey : Takes (readKey input) key rest)
    (hvalue : Yields (take depth key m rest) m' rest')
    (hlast : Yields (takeFields take depth limit m' rest') last res) :
    Yields (takeFields take depth limit m input) last res := by
  obtain ⟨_, hkey⟩ := hkey
  obtain ⟨_, hvalue⟩ := hvalue
  obtain ⟨_, hlast⟩ := hlast
  rw [takeFields, dif_neg hlong, hkey]
  dsimp only [bind, Except.bind]
  rw [hvalue]
  dsimp only
  rw [hlast]
  exact ⟨_, rfl⟩

/-- One field: a key, and a value that the message takes in. -/
theorem Absorbs.field {key : Key} {v : Bytes} (hk : key.Valid)
    (hv : ∀ rest, Yields (take depth key m (v ++ rest)) m' rest) :
    Absorbs take depth (key.encode ++ v) m m' := by
  intro limit rest last res hl hr
  have hkey : key.encode.length ≠ 0 := fun h => varint_ne_nil _ (List.eq_nil_of_length_eq_zero h)
  rw [List.append_assoc]
  refine takeFields_step ?_ (readKey_encode hk (v ++ rest)) (hv rest) hr
  simp only [List.length_append]
  omega

/-- A message decodes from octets that turn the empty one into it. -/
theorem decode_of_absorbs {empty : α} {b : Bytes} (h : Absorbs take 100 b empty m) : decode take empty b = .ok m := by
  have hend : Yields (takeFields take 100 0 m []) m [] := by
    rw [takeFields, dif_pos (show ([] : Bytes).length ≤ 0 from Nat.le_refl 0)]
    exact ⟨_, rfl⟩
  have hwhole := h 0 [] m [] (Nat.le_refl 0) hend
  rw [List.append_nil] at hwhole
  obtain ⟨_, hread⟩ := hwhole
  rw [decode, hread]
  rfl

/-- Octets are no longer than their field. -/
theorem length_le_bytesField (number : Nat) (b : Bytes) : b.length ≤ (bytesField number b).length := by
  unfold bytesField
  split
  · rename_i h
    exact Nat.le_of_eq (congrArg List.length h)
  · simp only [delimitedField, List.length_append]
    omega

/-- Each item is no longer than its repeated field. -/
theorem length_le_repeatedField (number : Nat) {items : List Bytes} {b : Bytes} (h : b ∈ items) :
    b.length ≤ (repeatedField number items).length := by
  obtain ⟨front, back, rfl⟩ := List.append_of_mem h
  simp only [repeatedField, List.flatMap_append, List.flatMap_cons, delimitedField, List.length_append]
  omega

/-- A field of octets is taken in by `set`. -/
theorem absorbs_delimitedField {number : Nat} {name : String} {b : Bytes} (set : Bytes → α)
    (hn : 0 < number ∧ (number + 1) * 8 ≤ UInt32.size) (hb : b.length < UInt64.size)
    (hs : ∀ input, take depth ⟨number, .delimited⟩ m input =
      inField name (do return (← takeBytes ⟨number, .delimited⟩ input).map set)) :
    Absorbs take depth (delimitedField number b) m (set b) := by
  rw [delimitedField, List.append_assoc]
  refine .field hn fun rest => ?_
  obtain ⟨shorter, hread⟩ := readDelimited_append hb rest
  rw [hs, takeBytes, hread]
  exact ⟨Nat.le_of_lt shorter, rfl⟩

/-- A field of octets, which is left out when there are none, is taken in by `set`. -/
theorem absorbs_bytesField {number : Nat} {name : String} {b : Bytes} (set : Bytes → α)
    (hn : 0 < number ∧ (number + 1) * 8 ≤ UInt32.size)
    (hb : b.length < UInt64.size) (hempty : b = [] → set b = m)
    (hs : ∀ input, take depth ⟨number, .delimited⟩ m input =
      inField name (do return (← takeBytes ⟨number, .delimited⟩ input).map set)) :
    Absorbs take depth (bytesField number b) m (set b) := by
  unfold bytesField
  split
  · rename_i hnil
    rw [hempty hnil]
    exact .nil m
  · exact absorbs_delimitedField set hn hb hs

/-- A field of text, which is left out when it is empty, is taken in by `set`. -/
theorem absorbs_textField {number : Nat} {name : String} {s : String} (set : String → α)
    (hn : 0 < number ∧ (number + 1) * 8 ≤ UInt32.size)
    (hb : (Utf8.encode s).length < UInt64.size) (hempty : s = "" → set s = m)
    (hs : ∀ input, take depth ⟨number, .delimited⟩ m input =
      inField name (do return (← takeText ⟨number, .delimited⟩ input).map set)) :
    Absorbs take depth (textField number s) m (set s) := by
  unfold textField bytesField
  split
  · rename_i hnil
    rw [hempty (Utf8.eq_empty_of_encode hnil)]
    exact .nil m
  · rw [delimitedField, List.append_assoc]
    refine .field hn fun rest => ?_
    obtain ⟨shorter, hread⟩ := readDelimited_append hb rest
    have htext := Utf8.decode_encode s
    refine ⟨Nat.le_of_lt shorter, ?_⟩
    rw [hs, takeText, takeBytes, hread]
    simp only [expect, if_pos, bind, Except.bind, pure, Except.pure, Taken.left, htext]
    rfl

/-- A field of a signed number of sixty-four bits, which is left out when it is zero, is taken in by `set`. -/
theorem absorbs_int64Field {number : Nat} {name : String} {n : Int64} (set : Int64 → α)
    (hn : 0 < number ∧ (number + 1) * 8 ≤ UInt32.size) (hzero : n = 0 → set n = m)
    (hs : ∀ input, take depth ⟨number, .varint⟩ m input =
      inField name (do return (← takeInt64 ⟨number, .varint⟩ input).map set)) :
    Absorbs take depth (int64Field number n) m (set n) := by
  unfold int64Field
  split
  · rename_i h
    rw [hzero h]
    exact .nil m
  · refine .field hn fun rest => ?_
    obtain ⟨shorter, hread⟩ := readVarint_varint n.toUInt64.toNat_lt rest
    have hback : (UInt64.ofNat n.toUInt64.toNat).toInt64 = n := by simp
    have hle := Nat.le_of_lt shorter
    rw [hs, takeInt64, hread]
    exact ⟨hle, congrArg (fun k => (Except.ok ⟨set k, rest, hle⟩ : Reading (Left _ α))) hback⟩

/-- A number of thirty-two bits is left when the higher bits of the number that is written for it are dropped. -/
theorem toInt32_toInt64 (n : Int32) : (UInt32.ofNat n.toInt64.toUInt64.toNat).toInt32 = n := by
  have hdropped : n.toInt64.toUInt64.toUInt32.toInt32 = n.toInt64.toInt32 := by
    apply Int32.toBitVec_inj.mp
    exact (BitVec.signExtend_eq_setWidth_of_le n.toInt64.toBitVec (Nat.le_add_right 32 32)).symm
  rw [UInt32.ofNat_uInt64ToNat, hdropped]
  exact Int32.toInt32_toInt64 n

/-- A field of a signed number of thirty-two bits, which is left out when it is zero, is taken in by `set`. -/
theorem absorbs_int32Field {number : Nat} {name : String} {n : Int32} (set : Int32 → α)
    (hn : 0 < number ∧ (number + 1) * 8 ≤ UInt32.size) (hzero : n = 0 → set n = m)
    (hs : ∀ input, take depth ⟨number, .varint⟩ m input =
      inField name (do return (← takeInt32 ⟨number, .varint⟩ input).map set)) :
    Absorbs take depth (int32Field number n) m (set n) := by
  have hback := toInt32_toInt64 n
  unfold int32Field int64Field
  split
  · rename_i h
    have hn : n = 0 := by
      rw [← hback, h]
      rfl
    rw [hzero hn]
    exact .nil m
  · refine .field hn fun rest => ?_
    obtain ⟨shorter, hread⟩ := readVarint_varint n.toInt64.toUInt64.toNat_lt rest
    have hle := Nat.le_of_lt shorter
    rw [hs, takeInt32, hread]
    exact ⟨hle, congrArg (fun k => (Except.ok ⟨set k, rest, hle⟩ : Reading (Left _ α))) hback⟩

/-! ## Nested messages -/

/-- A nested message is read up to the end that its length says. -/
theorem takeNested_append {number : Nat} {b : Bytes} (hb : b.length < UInt64.size) (h : Absorbs take depth b m m')
    (rest : Bytes) :
    Yields (takeNested take (depth + 1) ⟨number, .delimited⟩ m (varint b.length ++ b ++ rest)) m' rest := by
  rw [List.append_assoc]
  have hend : Yields (takeFields take depth rest.length m' rest) m' rest := by
    rw [takeFields, dif_pos (Nat.le_refl _)]
    exact ⟨_, rfl⟩
  obtain ⟨_, hfields⟩ := h rest.length rest m' rest (Nat.le_refl _) hend
  obtain ⟨_, hread⟩ := readVarint_varint hb (b ++ rest)
  have hlength : (b ++ rest).length = b.length + rest.length := List.length_append
  have hlong : ¬(b ++ rest).length < b.length := by omega
  have hlimit : (b ++ rest).length - b.length = rest.length := by omega
  unfold takeNested
  rw [hread]
  simp only [expect, if_pos, Nat.succ_ne_zero, if_neg, hlong, hlimit, Nat.add_sub_cancel, hfields, Result.ok_bind,
    not_false_eq_true]
  exact ⟨_, rfl⟩

/-- A field with the encoding of a nested message is taken in by `set`. -/
theorem absorbs_nestedField {takeInner : TakeField β} {inner inner' : β} {number : Nat} {name : String} {b : Bytes}
    (set : β → α) (hn : 0 < number ∧ (number + 1) * 8 ≤ UInt32.size) (hb : b.length < UInt64.size)
    (hinner : Absorbs takeInner depth b inner inner')
    (hs : ∀ input, take (depth + 1) ⟨number, .delimited⟩ m input =
      inField name (do return (← takeNested takeInner (depth + 1) ⟨number, .delimited⟩ inner input).map set)) :
    Absorbs take (depth + 1) (delimitedField number b) m (set inner') := by
  rw [delimitedField, List.append_assoc]
  refine .field hn fun rest => ?_
  obtain ⟨hle, hread⟩ := @takeNested_append _ takeInner depth inner inner' number b hb hinner rest
  rw [hs, hread]
  exact ⟨hle, rfl⟩

/-- Fields of several encodings are taken in one by one, where `set` says what the message is after the first ones. -/
theorem absorbs_repeatedField {number : Nat} {encode : β → Bytes} (set : List β → α) (items front : List β)
    (h : ∀ front item, item ∈ items →
      Absorbs take depth (delimitedField number (encode item)) (set front) (set (front ++ [item]))) :
    Absorbs take depth (repeatedField number (items.map encode)) (set front) (set (front ++ items)) := by
  induction items generalizing front with
  | nil =>
    rw [List.append_nil]
    exact .nil _
  | cons item items ih =>
    have hfirst := h front item List.mem_cons_self
    have hrest := ih (front ++ [item]) fun front' item' hitem => h front' item' (List.mem_cons_of_mem _ hitem)
    rw [List.append_assoc, List.singleton_append] at hrest
    exact hfirst.append hrest

end

end CheckpointRelay.Wire
