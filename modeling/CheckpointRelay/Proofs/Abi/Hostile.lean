import CheckpointRelay.Proofs.Abi.Reading
import Mathlib.Algebra.Group.Nat.Defs

/-!
# Reading data that anyone may have written

Offsets, lengths and counts in data are claims of whoever wrote it. On data of fewer than 2 ^ 58 octets no claim makes a
reader compute a position beyond sixty-four bits; only an index of the caller can, whose word would begin there. `Meets`
carries this through a reader: it does not overflow, and what it gives has a property. What is read stays the same when
more data follows (`Stable`), so what is cut off can make a reader fail, but not read something else. `Withstands` says
both of a reader of an argument.
-/

namespace CheckpointRelay.Abi

/-! ## What stands in data stays there -/

/-- What is read from data is read whatever follows. -/
def Stable {α : Type} (read : Bytes → Except DecodeError α) : Prop :=
  ∀ (data : Bytes) (a : α), read data = .ok a → ∀ back, read (data ++ back) = .ok a

section

variable {α β : Type} {read : Bytes → Except DecodeError α}

/-- A result that does not depend on the data. -/
theorem stable_const (r : Except DecodeError α) : Stable fun _ => r :=
  fun _ _ h _ => h

/-- Readers that do not mind what stands behind the data compose. -/
theorem Stable.bind (h : Stable read) {next : α → Bytes → Except DecodeError β} (hnext : ∀ a, Stable (next a)) :
    Stable fun data => read data >>= fun a => next a data := by
  intro data b hb back
  obtain ⟨a, ha, hnextA⟩ := Result.bind_eq_ok.mp hb
  exact Result.bind_eq_ok.mpr ⟨a, h data a ha back, hnext a data b hnextA back⟩

/-- Reading a word succeeds exactly with the 32 octets that stand there. -/
theorem wordAt_eq_ok_iff {data : Bytes} {place : Nat} {w : Word} :
    wordAt data place = .ok w ↔ StandsAt data place w.bytes := by
  refine ⟨fun h => ?_, wordAt_of_standsAt⟩
  unfold wordAt at h
  split at h
  · next hle =>
    obtain rfl := Except.ok.inj h
    exact ⟨data.take place, (data.drop place).drop 32, by simp only [List.take_append_drop],
      List.length_take_of_le (by omega)⟩
  · cases h

/-- Octets behind the data move nothing that stands in it. -/
theorem StandsAt.append {data b : Bytes} {place : Nat} (h : StandsAt data place b) (back : Bytes) :
    StandsAt (data ++ back) place b := by
  obtain ⟨front, rest, rfl, hplace⟩ := h
  exact ⟨front, rest ++ back, by simp only [List.append_assoc], hplace⟩

/-- A word that was read is read again with more octets behind the data. -/
theorem stable_wordAt (place : Nat) : Stable (wordAt · place) := by
  intro data w h back
  exact wordAt_of_standsAt ((wordAt_eq_ok_iff.mp h).append back)

/-- A length or an offset is a word that claims no more than there is. -/
theorem lengthAt_eq_ok_iff {data : Bytes} {place n : Nat} :
    lengthAt data place = .ok n ↔ ∃ w, StandsAt data place w.bytes ∧ (Uint256.ofWord w).val = n ∧ n ≤ data.length := by
  unfold lengthAt
  rw [Result.bind_eq_ok]
  simp only [wordAt_eq_ok_iff]
  constructor
  · rintro ⟨w, hw, h⟩
    split at h
    · next hle =>
      obtain rfl := Result.pure_eq_ok.mp h
      exact ⟨w, hw, rfl, hle⟩
    · nomatch h
  · rintro ⟨w, hw, rfl, hle⟩
    exact ⟨w, hw, if_pos hle⟩

/-- A length that was read is read again with more octets behind the data. -/
theorem stable_lengthAt (place : Nat) : Stable (lengthAt · place) := by
  intro data n h back
  obtain ⟨w, hw, hn, hle⟩ := lengthAt_eq_ok_iff.mp h
  refine lengthAt_eq_ok_iff.mpr ⟨w, hw.append back, hn, ?_⟩
  rw [List.length_append]
  exact Nat.le_add_right_of_le hle

/-- A byte string stands behind its own length. -/
theorem bytesAt_eq_ok_iff {data : Bytes} {place : Nat} {b : Bytes} :
    bytesAt data place = .ok b ↔
      lengthAt data place = .ok b.length ∧ place + 32 < UInt64.size ∧ StandsAt data (place + 32) b := by
  unfold bytesAt
  simp only [Result.bind_eq_ok, position]
  constructor
  · rintro ⟨n, hn, start, hstart, h⟩
    split at hstart
    · next hfits =>
      obtain rfl := Except.ok.inj hstart
      split at h
      · next hle =>
        obtain rfl := Result.pure_eq_ok.mp h
        have hlength : ((data.drop (place + 32)).take n).length = n := by
          rw [List.length_take, List.length_drop]
          omega
        refine ⟨by rw [hlength, hn], hfits, data.take (place + 32), (data.drop (place + 32)).drop n, ?_, ?_⟩
        · rw [List.take_append_drop, List.take_append_drop]
        · exact List.length_take_of_le (by omega)
      · nomatch h
    · nomatch hstart
  · rintro ⟨hn, hfits, hb⟩
    refine ⟨b.length, hn, place + 32, if_pos hfits, ?_⟩
    rw [if_pos hb.le, hb.take_drop]
    rfl

/-- The octets stand in data behind a word that writes how many they are. -/
def Delimited (data b : Bytes) : Prop :=
  ∃ place, lengthAt data place = .ok b.length ∧ StandsAt data (place + 32) b

/-- A byte string that was read is read again with more octets behind the data. -/
theorem stable_bytesAt (place : Nat) : Stable (bytesAt · place) := by
  intro data b h back
  obtain ⟨hn, hfits, hb⟩ := bytesAt_eq_ok_iff.mp h
  exact bytesAt_eq_ok_iff.mpr ⟨stable_lengthAt place data _ hn back, hfits, hb.append back⟩

/-- Items of an array of byte strings that were read are read again with more octets behind the data. -/
theorem stable_elements (base first count : Nat) : Stable (elements · base first count) := by
  induction count generalizing first with
  | zero => exact stable_const (.ok [])
  | succ count ih =>
    refine (stable_const (position (base + first * 32))).bind fun offsetPlace => ?_
    refine (stable_lengthAt offsetPlace).bind fun offset =>
      (stable_const (position (base + offset))).bind fun itemPlace => ?_
    exact (stable_bytesAt itemPlace).bind fun item => (ih (first + 1)).bind fun rest =>
      stable_const (.ok (item :: rest))

/-- Words of an array that were read are read again with more octets behind the data. -/
theorem stable_wordElements (base first count : Nat) : Stable (wordElements · base first count) := by
  induction count generalizing first with
  | zero => exact stable_const (.ok [])
  | succ count ih =>
    refine (stable_const (position (base + first * 32))).bind fun place => (stable_wordAt place).bind fun item => ?_
    exact (ih (first + 1)).bind fun rest => stable_const (.ok (item :: rest))

end

/-! ## What claims can bring about -/

/-- A reading does not overflow, and what it gives has a property. -/
def Meets {α : Type} (r : Except DecodeError α) (P : α → Prop) : Prop :=
  r ≠ .error .overflow ∧ ∀ a, r = .ok a → P a

section

variable {α β : Type} {r : Except DecodeError α} {P : α → Prop} {Q : β → Prop}

/-- A value that has the property meets it. -/
theorem meets_ok {a : α} (h : P a) : Meets (.ok a) P := by
  refine ⟨nofun, fun b hb => ?_⟩
  obtain rfl := Except.ok.inj hb
  exact h

/-- A refusal meets every property, unless it is an overflow. -/
theorem meets_error {e : DecodeError} (h : e ≠ .overflow) : Meets (.error e : Except DecodeError α) P :=
  ⟨fun he => h (Except.error.inj he), nofun⟩

/-- A read that meets `P`, followed by reads that meet `Q` from every such value, meets `Q`. -/
theorem Meets.bind (h : Meets r P) {next : α → Except DecodeError β} (hnext : ∀ a, r = .ok a → P a → Meets (next a) Q) :
    Meets (r >>= next) Q := by
  cases r with
  | error e => exact meets_error fun he => h.1 (congrArg Except.error he)
  | ok a => exact hnext a rfl (h.2 a rfl)

/-- A read meets every consequence of what it meets. -/
theorem Meets.mono (h : Meets r P) {P' : α → Prop} (hP : ∀ a, P a → P' a) : Meets r P' :=
  ⟨h.1, fun a ha => hP a (h.2 a ha)⟩

/-- A place below `2 ^ 64` is kept. -/
theorem meets_position {n : Nat} (h : n < UInt64.size) : Meets (position n) (· = n) := by
  rw [position, if_pos h]
  exact meets_ok rfl

variable {data : Bytes}

/-- A word that is read stands in the data. -/
theorem meets_wordAt (data : Bytes) (place : Nat) : Meets (wordAt data place) fun w => StandsAt data place w.bytes := by
  refine ⟨fun h => ?_, fun w => wordAt_eq_ok_iff.mp⟩
  unfold wordAt at h
  split at h <;> cases h

/-- What a word claims is no more than there is, and there is the word itself. -/
theorem meets_lengthAt (data : Bytes) (place : Nat) :
    Meets (lengthAt data place) fun n => n ≤ data.length ∧ place + 32 ≤ data.length := by
  refine (meets_wordAt data place).bind fun w _ hw => ?_
  have hplace := hw.le
  rw [w.length_eq] at hplace
  dsimp only
  split
  · next hle => exact meets_ok ⟨hle, hplace⟩
  · exact meets_error nofun

/-- A byte string that is read stands in the data with its length before it. -/
theorem meets_bytesAt (hdata : data.length < 2 ^ 58) (place : Nat) : Meets (bytesAt data place) (Delimited data) := by
  constructor
  · have hsafe : Meets (bytesAt data place) fun _ => True := by
      refine (meets_lengthAt data place).bind fun n _ hn => ?_
      refine (meets_position (show place + 32 < 2 ^ 64 by omega)).bind fun start _ _ => ?_
      split
      · exact meets_ok trivial
      · exact meets_error nofun
    exact hsafe.1
  · intro b h
    obtain ⟨hlength, -, hb⟩ := bytesAt_eq_ok_iff.mp h
    exact ⟨place, hlength, hb⟩

/-- Behind each offset word of an array that has been read there is room in front of the end of the data, so the place
of the next one does not overflow either, whatever number of items is claimed. -/
theorem meets_elements (hdata : data.length < 2 ^ 58) {base first : Nat} (hfirst : base + first * 32 ≤ data.length)
    (count : Nat) :
    Meets (elements data base first count) fun items => items.length = count ∧ ∀ b ∈ items, Delimited data b := by
  induction count generalizing first with
  | zero => exact meets_ok ⟨rfl, nofun⟩
  | succ count ih =>
    refine (meets_position (show base + first * 32 < 2 ^ 64 by omega)).bind fun offsetPlace _ hplace => ?_
    refine (meets_lengthAt data offsetPlace).bind fun offset _ hoffset => ?_
    refine (meets_position (show base + offset < 2 ^ 64 by omega)).bind fun itemPlace _ _ => ?_
    refine (meets_bytesAt hdata itemPlace).bind fun item _ hitem => ?_
    refine (@ih (first + 1) (by omega)).bind fun rest _ hrest => ?_
    exact meets_ok ⟨congrArg (· + 1) hrest.1, List.forall_mem_cons.mpr ⟨hitem, hrest.2⟩⟩

/-- The words that are read are as many as asked for, and each stands in the data. -/
theorem meets_wordElements (hdata : data.length < 2 ^ 58) {base first : Nat}
    (hfirst : base + first * 32 ≤ data.length + 32) (count : Nat) :
    Meets (wordElements data base first count) fun items =>
      items.length = count ∧ ∀ w ∈ items, ∃ place, StandsAt data place w.bytes := by
  induction count generalizing first with
  | zero => exact meets_ok ⟨rfl, nofun⟩
  | succ count ih =>
    refine (meets_position (show base + first * 32 < 2 ^ 64 by omega)).bind fun place _ hplace => ?_
    refine (meets_wordAt data place).bind fun item _ hitem => ?_
    have hle := hitem.le
    rw [item.length_eq] at hle
    refine (@ih (first + 1) (by omega)).bind fun rest _ hrest => ?_
    exact meets_ok ⟨congrArg (· + 1) hrest.1, List.forall_mem_cons.mpr ⟨⟨place, hitem⟩, hrest.2⟩⟩

/-- The byte string whose offset stands at a place. -/
theorem meets_pointedBytes (hdata : data.length < 2 ^ 58) (place : Nat) :
    Meets (lengthAt data place >>= bytesAt data) (Delimited data) :=
  (meets_lengthAt data place).bind fun start _ _ => meets_bytesAt hdata start

/-- The array whose offset stands at a place, when its items are read as they should be from its count on. -/
theorem meets_pointedArray {items : Nat → Nat → Except DecodeError β}
    (hitems : ∀ array count, array + 32 ≤ data.length → count ≤ data.length → Meets (items array count) Q)
    (place : Nat) :
    Meets (lengthAt data place >>= fun array => lengthAt data array >>= items array) Q := by
  refine (meets_lengthAt data place).bind fun array _ _ => (meets_lengthAt data array).bind fun count _ hcount => ?_
  exact hitems array count hcount.2 hcount.1

/-- The items of the array a head word points to are no more than the data is long, and each stands in the data. -/
theorem meets_pointedBytesArray (hdata : data.length < 2 ^ 58) (place : Nat) :
    Meets (lengthAt data place >>= fun array => lengthAt data array >>= fun count =>
        position (array + 32) >>= fun base => elements data base 0 count)
      fun items => items.length ≤ data.length ∧ ∀ b ∈ items, Delimited data b := by
  refine meets_pointedArray (fun array count harray hcount => ?_) place
  refine (meets_position (show array + 32 < 2 ^ 64 by omega)).bind fun base _ hbase => ?_
  exact (meets_elements hdata (by omega) count).mono fun items hitems => ⟨hitems.1 ▸ hcount, hitems.2⟩

/-- The words of the array a head word points to are no more than the data is long, and each stands in the data. -/
theorem meets_pointedWords (hdata : data.length < 2 ^ 58) (place : Nat) :
    Meets (lengthAt data place >>= fun array => lengthAt data array >>= wordElements data array 1)
      fun items => items.length ≤ data.length ∧ ∀ w ∈ items, ∃ place, StandsAt data place w.bytes := by
  refine meets_pointedArray (fun array count harray hcount => ?_) place
  exact (meets_wordElements hdata (by omega) count).mono fun items hitems => ⟨hitems.1 ▸ hcount, hitems.2⟩

end

/-! ## The readers of arguments -/

/-- A reader of an argument withstands data: it overflows exactly at the indices whose words begin beyond sixty-four
bits, reads the same whatever follows the data, and reads nothing else where the data has been cut off. -/
structure Withstands {α : Type} (read : Bytes → Nat → Except DecodeError α) (data : Bytes) : Prop where
  overflow_iff : ∀ index, read data index = .error .overflow ↔ 2 ^ 59 ≤ index
  extended : ∀ index a, read data index = .ok a → ∀ back, read (data ++ back) index = .ok a
  truncated : ∀ index n, (∃ e, read (data.take n) index = .error e) ∨ read (data.take n) index = read data index

section

variable {α β : Type} {data : Bytes}

/-- A reader begins with the place of the word of its index, which alone can overflow. -/
theorem withstands_of_position {rest : Bytes → Nat → Except DecodeError α}
    (hrest : ∀ place, rest data place ≠ .error .overflow) (hstable : ∀ place, Stable (rest · place)) :
    Withstands (fun data index => position (index * 32) >>= rest data) data where
  overflow_iff index := by
    by_cases h : index * 32 < 2 ^ 64
    · have hposition : position (index * 32) = .ok (index * 32) := if_pos h
      rw [hposition, Result.ok_bind]
      exact iff_of_false (hrest _) (by omega)
    · have hposition : position (index * 32) = .error .overflow := if_neg h
      rw [hposition]
      exact iff_of_true rfl (by omega)
  extended index a h back := (stable_const (position (index * 32))).bind hstable data a h back
  truncated index n := by
    cases hread : position (index * 32) >>= rest (data.take n) with
    | error e => exact .inl ⟨e, rfl⟩
    | ok a =>
      have hwhole := (stable_const (position (index * 32))).bind hstable (data.take n) a hread (data.drop n)
      rw [List.take_append_drop] at hwhole
      exact .inr hwhole.symm

/-- What is made of a result without looking at the data again. -/
theorem Withstands.bind {read : Bytes → Nat → Except DecodeError α} (h : Withstands read data)
    {next : Nat → α → Except DecodeError β} (hnext : ∀ index a, next index a ≠ .error .overflow) :
    Withstands (fun data index => read data index >>= next index) data where
  overflow_iff index := by
    rw [← h.overflow_iff index]
    cases read data index with
    | error e => exact ⟨fun | rfl => rfl, fun | rfl => rfl⟩
    | ok a => exact iff_of_false (hnext index a) nofun
  extended index b hb back := by
    obtain ⟨a, ha, hnextA⟩ := Result.bind_eq_ok.mp hb
    exact Result.bind_eq_ok.mpr ⟨a, h.extended index a ha back, hnextA⟩
  truncated index n := by
    rcases h.truncated index n with ⟨e, he⟩ | heq
    · exact .inl ⟨e, by rw [he]; rfl⟩
    · exact .inr (by rw [heq])

/-- Reading a word by its position withstands any data. -/
theorem withstands_wordOf (data : Bytes) : Withstands wordOf data :=
  withstands_of_position (fun place => (meets_wordAt data place).1) stable_wordAt

/-- Reading a number withstands any data. -/
theorem withstands_uint256Of (data : Bytes) : Withstands uint256Of data :=
  (withstands_wordOf data).bind fun _ _ => nofun

/-- Reading an address withstands any data. -/
theorem withstands_addressOf (data : Bytes) : Withstands addressOf data := by
  refine (withstands_wordOf data).bind fun index w h => ?_
  split at h <;> cases h

/-- Reading a byte string withstands any data below `2 ^ 58` octets. -/
theorem withstands_bytesOf (hdata : data.length < 2 ^ 58) : Withstands bytesOf data :=
  withstands_of_position (fun place => (meets_pointedBytes hdata place).1) fun place =>
    (stable_lengthAt place).bind stable_bytesAt

/-- Reading a text withstands any data below `2 ^ 58` octets. -/
theorem withstands_textOf (hdata : data.length < 2 ^ 58) : Withstands textOf data := by
  refine (withstands_bytesOf hdata).bind fun _ b => ?_
  cases Utf8.decode b <;> nofun

/-- Reading an array of byte strings withstands any data below `2 ^ 58` octets. -/
theorem withstands_bytesArrayOf (hdata : data.length < 2 ^ 58) : Withstands bytesArrayOf data := by
  refine withstands_of_position (fun place => (meets_pointedBytesArray hdata place).1) fun place => ?_
  refine (stable_lengthAt place).bind fun array => (stable_lengthAt array).bind fun count => ?_
  exact (stable_const (position (array + 32))).bind fun base => stable_elements base 0 count

/-- Reading an array of words withstands any data below `2 ^ 58` octets. -/
theorem withstands_wordsOf (hdata : data.length < 2 ^ 58) : Withstands wordsOf data := by
  refine withstands_of_position (fun place => (meets_pointedWords hdata place).1) fun place => ?_
  exact (stable_lengthAt place).bind fun array => (stable_lengthAt array).bind fun count =>
    stable_wordElements array 1 count

/-- What a reader gives is what is read from the place of its word. -/
theorem of_position {rest : Nat → Except DecodeError α} {P : α → Prop} (hmeets : ∀ place, Meets (rest place) P)
    {index : Nat} {a : α} (h : position (index * 32) >>= rest = .ok a) : P a := by
  obtain ⟨place, -, hrest⟩ := Result.bind_eq_ok.mp h
  exact (hmeets place).2 a hrest

end

/-- Whatever lengths, offsets and counts data claims, no reader of an argument overflows on it but for its own index,
none is changed by what follows the data, and each piece that one gives stands in the data as a whole, no more pieces
than the data has octets. There is room for as many words as any length claims. -/
theorem readers_withstand_any_data {data : Bytes} (hdata : data.length < 2 ^ 58) :
    (Withstands wordOf data ∧ Withstands uint256Of data ∧ Withstands addressOf data ∧ Withstands bytesOf data ∧
      Withstands textOf data ∧
        Withstands bytesArrayOf data ∧ Withstands wordsOf data) ∧
      (∀ index b, bytesOf data index = .ok b → Delimited data b) ∧
      (∀ index items, bytesArrayOf data index = .ok items →
        items.length ≤ data.length ∧ ∀ b ∈ items, Delimited data b) ∧
      (∀ index items, wordsOf data index = .ok items →
        items.length ≤ data.length ∧ ∀ w ∈ items, ∃ place, StandsAt data place w.bytes) ∧
      ∀ place n, lengthAt data place = .ok n → n ≤ data.length ∧ 32 * n < Bytes.maxLength := by
  refine ⟨⟨withstands_wordOf data, withstands_uint256Of data, withstands_addressOf data, withstands_bytesOf hdata,
    withstands_textOf hdata, withstands_bytesArrayOf hdata, withstands_wordsOf hdata⟩, ?_, ?_, ?_, ?_⟩
  · exact fun index b => of_position (meets_pointedBytes hdata)
  · exact fun index items => of_position (meets_pointedBytesArray hdata)
  · exact fun index items => of_position (meets_pointedWords hdata)
  · intro place n hn
    have hle := ((meets_lengthAt data place).2 n hn).1
    refine ⟨hle, ?_⟩
    unfold Bytes.maxLength
    omega

/-- An array of two byte strings whose offsets both point at the first offset word, which writes no octets. -/
def overlappingItems : Bytes :=
  words [ofLength 32, ofLength 2, ofLength 0, ofLength 0]

/-- Two offsets that point to the same octets: both items are read, and only an index of the caller's can overflow. -/
theorem readers_withstand_overlapping_items :
    overlappingItems.length < 2 ^ 58 ∧ bytesArrayOf overlappingItems 0 = .ok [[], []] ∧
      bytesArrayOf (overlappingItems ++ [255]) 0 = .ok [[], []] ∧
      bytesArrayOf overlappingItems (2 ^ 59) = .error .overflow ∧
      Delimited overlappingItems [] := by
  have hlength : overlappingItems.length < 2 ^ 58 := by decide +kernel
  have hread : bytesArrayOf overlappingItems 0 = .ok [[], []] := by cbv
  obtain ⟨⟨-, -, -, -, -, harray, -⟩, -, hitems, -⟩ := readers_withstand_any_data hlength
  exact ⟨hlength, hread, harray.extended 0 _ hread [255], (harray.overflow_iff _).mpr (Nat.le_refl _),
    (hitems 0 _ hread).2 [] List.mem_cons_self⟩

end CheckpointRelay.Abi
