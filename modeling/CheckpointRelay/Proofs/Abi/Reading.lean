import CheckpointRelay.Abi.Decode
import CheckpointRelay.Abi.Encode
import CheckpointRelay.Proofs.Bytes
import CheckpointRelay.Proofs.Hash.Keccak256
import CheckpointRelay.Proofs.Result

/-!
# What is written in contract data can be read back

`StandsAt data place b` says that the octets `b` stand at a place in data. Words, byte strings and arrays of byte
strings that stand somewhere are read there (`wordAt_of_standsAt`, `bytesAt_of_standsAt`, `bytesArrayOf_of_standsAt`),
whatever stands before and behind them. So the arguments of a call are read behind its selector.
-/

namespace CheckpointRelay.Abi

/-- The octets `b` stand at a place in data. -/
def StandsAt (data : Bytes) (place : Nat) (b : Bytes) : Prop :=
  ∃ front back, data = front ++ (b ++ back) ∧ front.length = place

namespace StandsAt

variable {data a b : Bytes} {place : Nat}

/-- A string stands at the start of itself. -/
theorem self (data : Bytes) : StandsAt data 0 data :=
  ⟨[], [], by simp, rfl⟩

/-- Where a string stands, its front stands. -/
theorem left (h : StandsAt data place (a ++ b)) : StandsAt data place a := by
  obtain ⟨front, back, hdata, hplace⟩ := h
  exact ⟨front, b ++ back, by rw [hdata, List.append_assoc], hplace⟩

/-- Behind the front stands the back. -/
theorem right (h : StandsAt data place (a ++ b)) : StandsAt data (place + a.length) b := by
  obtain ⟨front, back, hdata, hplace⟩ := h
  exact ⟨front ++ a, back, by rw [hdata]; simp only [List.append_assoc], by rw [List.length_append, hplace]⟩

/-- A string that stands in the data ends within it. -/
theorem le (h : StandsAt data place b) : place + b.length ≤ data.length := by
  obtain ⟨front, back, hdata, hplace⟩ := h
  simp only [hdata, List.length_append]
  omega

/-- Cutting the data at the place and taking the length gives the string. -/
theorem take_drop (h : StandsAt data place b) : (data.drop place).take b.length = b := by
  obtain ⟨front, back, rfl, rfl⟩ := h
  rw [List.drop_left, List.take_left]

end StandsAt

/-! ## Words -/

/-- Words one behind the other are 32 octets each. -/
@[simp] theorem length_words (ws : List Word) : (words ws).length = 32 * ws.length := by
  induction ws with
  | nil => rfl
  | cons w ws ih =>
    rw [words, List.flatMap_cons, List.length_append, w.length_eq]
    rw [words] at ih
    rw [ih, List.length_cons]
    omega

/-- The octets of a list of words determine the words. -/
theorem words_injective {ws ws' : List Word} (h : words ws = words ws') : ws = ws' :=
  Bytes.flatMap_injective (by decide) Octets.length_eq (fun _ _ => Octets.ext) h

/-- Each of several words stands in its place. -/
theorem standsAt_words {data : Bytes} {place : Nat} {ws front back : List Word} {w : Word}
    (h : StandsAt data place (words ws)) (hws : ws = front ++ w :: back) :
    StandsAt data (place + 32 * front.length) w.bytes := by
  rw [hws, words, List.flatMap_append, List.flatMap_cons] at h
  have hw := h.right.left
  rwa [show (front.flatMap Octets.bytes).length = 32 * front.length from length_words front] at hw

/-- Word `i` of a list stands at `32 * i`. -/
theorem standsAt_word {data : Bytes} {ws : List Word} (h : StandsAt data 0 (words ws)) (i : Nat) (hi : i < ws.length) :
    StandsAt data (i * 32) ws[i].bytes := by
  have hsplit : ws = ws.take i ++ ws[i] :: ws.drop (i + 1) := by
    rw [← List.drop_eq_getElem_cons hi, List.take_append_drop]
  have hword := standsAt_words h hsplit
  rwa [Nat.zero_add, List.length_take_of_le (Nat.le_of_lt hi), Nat.mul_comm] at hword

/-- A word that stands in the data is read. -/
theorem wordAt_of_standsAt {data : Bytes} {place : Nat} {w : Word} (h : StandsAt data place w.bytes) :
    wordAt data place = .ok w := by
  have hle := h.le
  have hread := h.take_drop
  rw [w.length_eq] at hle hread
  rw [wordAt, dif_pos hle]
  exact congrArg Except.ok (Octets.ext hread)

/-- A place within data of a possible length is not out of range. -/
theorem position_of_le {data : Bytes} {n : Nat} (hdata : data.length < Bytes.maxLength) (h : n ≤ data.length) :
    position n = .ok n :=
  if_pos (Bytes.lt_size_of_lt_maxLength (Nat.lt_of_le_of_lt h hdata))

/-- A word that stands at an argument's place is read as that argument. -/
theorem wordOf_of_standsAt {data : Bytes} {index : Nat} {w : Word} (hdata : data.length < Bytes.maxLength)
    (h : StandsAt data (index * 32) w.bytes) : wordOf data index = .ok w := by
  have hle := h.le
  rw [wordOf, position_of_le hdata (by omega), Result.ok_bind]
  exact wordAt_of_standsAt h

/-- The first word is the first thirty-two octets. -/
theorem wordOf_zero_eq_ok_iff {data : Bytes} {w : Word} :
    wordOf data 0 = .ok w ↔ 32 ≤ data.length ∧ data.take 32 = w.bytes := by
  have hword : wordOf data 0 = wordAt data 0 := rfl
  rw [hword, wordAt]
  split
  next hlength =>
    constructor
    · intro h
      exact ⟨by omega, congrArg Octets.bytes (Except.ok.inj h)⟩
    · rintro ⟨-, hbytes⟩
      exact congrArg Except.ok (Octets.ext hbytes)
  next hlength =>
    constructor
    · intro h
      cases h
    · rintro ⟨hle, -⟩
      omega

/-- A number that stands as a word at an argument's place is read as that argument. -/
theorem uint256Of_of_standsAt {data : Bytes} {index : Nat} {x : Uint256} (hdata : data.length < Bytes.maxLength)
    (h : StandsAt data (index * 32) x.toWord.bytes) : uint256Of data index = .ok x := by
  rw [uint256Of, wordOf_of_standsAt hdata h, Result.ok_bind]
  exact congrArg Except.ok (Uint256.ofWord_toWord x)

/-- A word alone is read as its number. -/
theorem uint256Of_toWord (x : Uint256) : uint256Of x.toWord.bytes 0 = .ok x :=
  uint256Of_of_standsAt (by rw [x.toWord.length_eq]; decide) (.self _)

/-- An address word begins with twelve zeros. -/
theorem take_ofAddress (a : Address) : (ofAddress a).bytes.take 12 = List.replicate 12 0 :=
  List.take_left' List.length_replicate

/-- An address word ends with the account. -/
theorem drop_ofAddress (a : Address) : (ofAddress a).bytes.drop 12 = a.account.bytes :=
  List.drop_left' List.length_replicate

/-- Different addresses have different words. -/
theorem ofAddress_injective {a a' : Address} (h : ofAddress a = ofAddress a') : a = a' := by
  have haccount : a.account = a'.account := Octets.ext (by rw [← drop_ofAddress, h, drop_ofAddress])
  cases a
  exact congrArg Address.mk haccount

/-- Reading a number is reading the word that spells it. -/
theorem uint256Of_eq_ok_iff {data : Bytes} {index : Nat} {x : Uint256} :
    uint256Of data index = .ok x ↔ wordOf data index = .ok x.toWord := by
  unfold uint256Of
  constructor
  · intro h
    obtain ⟨word, hword, hx⟩ := Result.bind_eq_ok.mp h
    rw [hword, ← Result.pure_eq_ok.mp hx, Uint256.toWord_ofWord]
  · intro h
    rw [h, Result.ok_bind, Uint256.ofWord_toWord]
    rfl

/-- An address is read from the word that writes it, and from no other. -/
theorem addressOf_eq_ok_iff {data : Bytes} {index : Nat} {a : Address} :
    addressOf data index = .ok a ↔ wordOf data index = .ok (ofAddress a) := by
  unfold addressOf
  constructor
  · intro h
    obtain ⟨word, hword, h⟩ := Result.bind_eq_ok.mp h
    split at h
    next hclean =>
      rw [hword, ← Result.pure_eq_ok.mp h]
      have hbytes : word.bytes = List.replicate 12 0 ++ word.bytes.drop 12 := by rw [← hclean, List.take_append_drop]
      exact congrArg Except.ok (Octets.ext hbytes)
    next => cases h
  · intro h
    rw [h, Result.ok_bind, if_pos (take_ofAddress a)]
    exact congrArg (fun account : Octets 20 => Except.ok (Address.mk account)) (Octets.ext (drop_ofAddress a))

/-- An address word that stands at an argument's place is read as the address. -/
theorem addressOf_of_standsAt {data : Bytes} {index : Nat} {a : Address} (hdata : data.length < Bytes.maxLength)
    (h : StandsAt data (index * 32) (ofAddress a).bytes) : addressOf data index = .ok a :=
  addressOf_eq_ok_iff.mpr (wordOf_of_standsAt hdata h)

/-- A length below `2 ^ 256` is read back from its word. -/
theorem toNat_ofLength {n : Nat} (h : n < Word.count) : (Uint256.ofWord (ofLength n)).val = n := by
  rw [Uint256.val_ofWord, ofLength, Octets.toNat_ofNat]
  rwa [Word.count_eq]

/-- A length that a word can write is read from its word. -/
theorem lengthAt_of_lt {data : Bytes} {place n : Nat} (hcount : n < Word.count) (hn : n ≤ data.length)
    (h : StandsAt data place (ofLength n).bytes) : lengthAt data place = .ok n := by
  rw [lengthAt, wordAt_of_standsAt h, Result.ok_bind]
  dsimp only
  rw [toNat_ofLength hcount, if_pos hn]
  rfl

/-- A length that stands as a word, and is no longer than the data, is read. -/
theorem lengthAt_of_standsAt {data : Bytes} {place n : Nat} (hdata : data.length < Bytes.maxLength)
    (hn : n ≤ data.length) (h : StandsAt data place (ofLength n).bytes) : lengthAt data place = .ok n :=
  lengthAt_of_lt (Nat.lt_trans (Nat.lt_of_le_of_lt hn hdata) (by decide)) hn h

/-! ## Byte strings -/

/-- Padding does not shorten. -/
theorem le_paddedLength (n : Nat) : n ≤ paddedLength n := by
  unfold paddedLength
  omega

/-- A padded string has the padded length. -/
@[simp] theorem length_padded (b : Bytes) : (padded b).length = paddedLength b.length := by
  have := le_paddedLength b.length
  simp only [padded, List.length_append, List.length_replicate]
  omega

/-- An encoded byte string is the word of its length and the padded string. -/
@[simp] theorem length_ofBytes (b : Bytes) : (ofBytes b).length = 32 + paddedLength b.length := by
  rw [ofBytes, List.length_append, (ofLength b.length).length_eq, length_padded]

/-- A byte string whose length a word can write is read behind that word. -/
theorem bytesAt_of_lt {data : Bytes} {place : Nat} {b : Bytes} (hcount : b.length < Word.count)
    (hplace : place + 32 < UInt64.size) (h : StandsAt data place (ofBytes b)) : bytesAt data place = .ok b := by
  have hlength : StandsAt data place (ofLength b.length).bytes := h.left
  have hoctets : StandsAt data (place + 32) b := by
    have := h.right.left
    rwa [(ofLength b.length).length_eq] at this
  have hle := hoctets.le
  have hposition : position (place + 32) = .ok (place + 32) := if_pos hplace
  rw [bytesAt, lengthAt_of_lt hcount (by omega) hlength, Result.ok_bind, hposition, Result.ok_bind, if_pos hle,
    hoctets.take_drop]
  rfl

/-- An encoded byte string that stands in the data is read back. -/
theorem bytesAt_of_standsAt {data : Bytes} {place : Nat} {b : Bytes} (hdata : data.length < Bytes.maxLength)
    (h : StandsAt data place (ofBytes b)) : bytesAt data place = .ok b := by
  have hle := h.le
  rw [length_ofBytes] at hle
  have hpadded := le_paddedLength b.length
  have hlength : b.length < Bytes.maxLength := by omega
  exact bytesAt_of_lt (Nat.lt_trans hlength (by decide)) (Bytes.lt_size_of_lt_maxLength (by omega)) h

/-- A byte string whose length a word can write is read from data that holds nothing else. -/
theorem bytesOf_ofBytes {b : Bytes} (h : b.length < Word.count) :
    bytesOf ((ofLength 32).bytes ++ ofBytes b) 0 = .ok b := by
  have hself := StandsAt.self ((ofLength 32).bytes ++ ofBytes b)
  have hbytes := hself.right
  rw [(ofLength 32).length_eq] at hbytes
  have hle := hbytes.le
  have hstart : position (0 * 32) = .ok 0 := rfl
  rw [bytesOf, hstart, Result.ok_bind, lengthAt_of_lt (by decide) (by omega) hself.left, Result.ok_bind]
  exact bytesAt_of_lt h (by decide) hbytes

/-! ## Arrays of byte strings -/

/-- The offsets of later items count from the end of the earlier ones. -/
theorem offsets_append (offset : Nat) (front back : List Bytes) :
    offsets offset (front ++ back) =
      offsets offset front ++ offsets (offset + (front.flatMap ofBytes).length) back := by
  induction front generalizing offset with
  | nil => rfl
  | cons item front ih =>
    simp only [List.cons_append, offsets, ih, List.flatMap_cons, List.length_append, length_ofBytes, Nat.add_assoc]

/-- There is one offset for each item. -/
@[simp] theorem length_offsets (offset : Nat) (items : List Bytes) : (offsets offset items).length = items.length := by
  induction items generalizing offset with
  | nil => rfl
  | cons item items ih => simp only [offsets, List.length_cons, ih]

/-- The offset words of an array and the items behind them. -/
def laidOut (items : List Bytes) : Bytes :=
  words (offsets (32 * items.length) items) ++ items.flatMap ofBytes

/-- The offset of an item, counted from the first offset word: behind the offset words and the items before it. -/
def offsetBehind (front back : List Bytes) : Nat :=
  32 * (front ++ back).length + (front.flatMap ofBytes).length

/-- The offset word of an item stands in its place among the offset words, and the item where it points. -/
theorem standsAt_item {data : Bytes} {base : Nat} {front back : List Bytes} {item : Bytes}
    (h : StandsAt data base (laidOut (front ++ item :: back))) :
    StandsAt data (base + 32 * front.length) (ofLength (offsetBehind front (item :: back))).bytes ∧
      StandsAt data (base + offsetBehind front (item :: back)) (ofBytes item) := by
  constructor
  · have hword := standsAt_words h.left (offsets_append _ front (item :: back))
    rwa [length_offsets] at hword
  · have hitems := h.right
    rw [List.flatMap_append, List.flatMap_cons] at hitems
    have hitem := hitems.right.left
    rwa [length_words, length_offsets, Nat.add_assoc] at hitem

/-- The items behind the first ones of an array are read from their offsets on. -/
theorem elements_of_standsAt {data : Bytes} {base : Nat} (hdata : data.length < Bytes.maxLength)
    (front items : List Bytes) (h : StandsAt data base (laidOut (front ++ items))) :
    elements data base front.length items.length = .ok items := by
  induction items generalizing front with
  | nil => rfl
  | cons item items ih =>
    obtain ⟨hword, hitem⟩ := standsAt_item h
    rw [Nat.mul_comm] at hword
    have hle := hitem.le
    have hwordLe := hword.le
    have hrest : elements data base (front.length + 1) items.length = .ok items := by
      have hsplit : front ++ item :: items = front ++ [item] ++ items := by simp
      rw [hsplit] at h
      have := ih (front ++ [item]) h
      rwa [List.length_append, List.length_singleton] at this
    rw [List.length_cons, elements, position_of_le hdata (by omega), Result.ok_bind,
      lengthAt_of_standsAt hdata (by omega) hword, Result.ok_bind, position_of_le hdata (by omega), Result.ok_bind,
      bytesAt_of_standsAt hdata hitem, Result.ok_bind, hrest, Result.ok_bind]
    rfl

/-- The number of items of an array stands in front of the offset words. -/
theorem standsAt_laidOut {data : Bytes} {place : Nat} {items : List Bytes}
    (h : StandsAt data place (ofBytesArray items)) :
    StandsAt data place (ofLength items.length).bytes ∧ StandsAt data (place + 32) (laidOut items) := by
  unfold ofBytesArray at h
  rw [List.append_assoc] at h
  have hitems := h.right
  rw [(ofLength items.length).length_eq] at hitems
  exact ⟨h.left, hitems⟩

/-- An array of byte strings is read where the word of an index points. -/
theorem bytesArrayOf_of_standsAt {data : Bytes} {index place : Nat} {items : List Bytes}
    (hdata : data.length < Bytes.maxLength) (hword : StandsAt data (index * 32) (ofLength place).bytes)
    (harray : StandsAt data place (ofBytesArray items)) :
    bytesArrayOf data index = .ok items := by
  obtain ⟨hcount, hitems⟩ := standsAt_laidOut harray
  have hwordLe := hword.le
  have hcountLe := hcount.le
  have hitemsLe := hitems.left.le
  rw [length_words, length_offsets] at hitemsLe
  rw [bytesArrayOf, position_of_le hdata (by omega), Result.ok_bind, lengthAt_of_standsAt hdata (by omega) hword,
    Result.ok_bind, lengthAt_of_standsAt hdata (by omega) hcount, Result.ok_bind, position_of_le hdata (by omega),
    Result.ok_bind]
  exact elements_of_standsAt hdata [] items hitems

/-- An encoded array is its count, the table of offsets and the encoded items. -/
theorem length_ofBytesArray_eq (items : List Bytes) :
    (ofBytesArray items).length = 32 + 32 * items.length + (items.flatMap ofBytes).length := by
  rw [ofBytesArray, List.length_append, List.length_append, (ofLength _).length_eq, length_words, length_offsets]

/-- The length of an array of byte strings of one length. -/
theorem length_ofBytesArray {items : List Bytes} {n : Nat} (h : ∀ item ∈ items, item.length = n) :
    (ofBytesArray items).length = 32 + (64 + paddedLength n) * items.length := by
  have hitems : (items.flatMap ofBytes).length = (32 + paddedLength n) * items.length := by
    induction items with
    | nil => rfl
    | cons item items ih =>
      rw [List.flatMap_cons, List.length_append, length_ofBytes, h item List.mem_cons_self,
        ih fun item hitem => h item (List.mem_cons_of_mem _ hitem), List.length_cons, Nat.mul_succ, Nat.add_comm]
  rw [length_ofBytesArray_eq, hitems, Nat.add_mul, Nat.add_mul]
  omega

/-! ## Arrays of words -/

/-- An encoded array of words is its count and the words. -/
theorem length_ofWords (items : List Word) : (ofWords items).length = 32 + 32 * items.length := by
  rw [ofWords, List.length_append, (ofLength _).length_eq, length_words]

/-- The words behind the first ones of an array are read in their places. -/
theorem wordElements_of_standsAt {data : Bytes} {array : Nat} (hdata : data.length < Bytes.maxLength)
    (front items : List Word) (h : StandsAt data (array + 32) (words (front ++ items))) :
    wordElements data array (front.length + 1) items.length = .ok items := by
  induction items generalizing front with
  | nil => rfl
  | cons item items ih =>
    have hitem : StandsAt data (array + (front.length + 1) * 32) item.bytes := by
      have hword := standsAt_words h rfl
      rwa [show array + 32 + 32 * front.length = array + (front.length + 1) * 32 by omega] at hword
    have hle := hitem.le
    have hrest : wordElements data array (front.length + 1 + 1) items.length = .ok items := by
      have hsplit : front ++ item :: items = front ++ [item] ++ items := by simp
      rw [hsplit] at h
      have := ih (front ++ [item]) h
      rwa [List.length_append, List.length_singleton] at this
    rw [List.length_cons, wordElements, position_of_le hdata (by omega), Result.ok_bind, wordAt_of_standsAt hitem,
      Result.ok_bind, hrest, Result.ok_bind]
    rfl

/-- An array of words is read where the word of an index points. -/
theorem wordsOf_of_standsAt {data : Bytes} {index place : Nat} {items : List Word}
    (hdata : data.length < Bytes.maxLength) (hword : StandsAt data (index * 32) (ofLength place).bytes)
    (harray : StandsAt data place (ofWords items)) :
    wordsOf data index = .ok items := by
  have hcount : StandsAt data place (ofLength items.length).bytes := harray.left
  have hitems := harray.right
  rw [(ofLength items.length).length_eq] at hitems
  have hwordLe := hword.le
  have hcountLe := hcount.le
  have hitemsLe := hitems.le
  rw [length_words] at hitemsLe
  rw [wordsOf, position_of_le hdata (by omega), Result.ok_bind, lengthAt_of_standsAt hdata (by omega) hword,
    Result.ok_bind, lengthAt_of_standsAt hdata (by omega) hcount, Result.ok_bind]
  exact wordElements_of_standsAt hdata [] items hitems

/-! ## Calldata -/

/-- Call data is the selector and the words of its arguments. -/
theorem length_call (selector : Octets 4) (arguments : List Word) :
    (call selector arguments).length = 4 + 32 * arguments.length := by
  rw [call, List.length_append, selector.length_eq, length_words]

/-- The selector of a declaration that fits a block of the hash, computed in numbers. -/
theorem bytes_selector {signature : String} (h : (Utf8.encode signature).length < Keccak256.rate) :
    (selector signature).bytes = (Keccak256.Numeric.digest (Utf8.encode signature)).take 4 :=
  congrArg (List.take 4) (Keccak256.Numeric.bytes_digest h)

/-- Behind the selector of call data stand the words of its arguments. -/
theorem drop_call (selector : Octets 4) (arguments : List Word) (back : Bytes) :
    (call selector arguments ++ back).drop 4 = words arguments ++ back := by
  rw [call, List.append_assoc]
  exact List.drop_left' selector.length_eq

/-- The first four octets of call data are the selector. -/
theorem take_call (selector : Octets 4) (arguments : List Word) (back : Bytes) :
    (call selector arguments ++ back).take 4 = selector.bytes := by
  rw [call, List.append_assoc]
  exact List.take_left' selector.length_eq

/-- What stands behind the selector of a call: its arguments, the offset of its tail, and there its tail. -/
theorem standsAt_callWithTail (selector : Octets 4) (arguments : List Word) (tail back : Bytes) :
    StandsAt ((callWithTail selector arguments tail ++ back).drop 4) 0
        (words (arguments ++ [ofLength (32 * (arguments.length + 1))])) ∧
      StandsAt ((callWithTail selector arguments tail ++ back).drop 4) (32 * (arguments.length + 1)) tail := by
  have hself := StandsAt.self ((callWithTail selector arguments tail ++ back).drop 4)
  conv at hself => arg 3; rw [callWithTail, List.append_assoc, drop_call]
  have htail := hself.right.left
  rw [Nat.zero_add, length_words, List.length_append, List.length_singleton] at htail
  exact ⟨hself.left, htail⟩

section

variable {selector : Octets 4} {arguments : List Word} {tail back : Bytes}

/-- Call data without its selector stays below any bound the call data is below. -/
theorem length_drop_lt {call : Bytes} {n : Nat} (h : call.length < n) : (call.drop 4).length < n :=
  Nat.lt_of_le_of_lt (by rw [List.length_drop]; exact Nat.sub_le _ _) h

/-- The offset of the tail is the word behind the arguments. -/
theorem standsAt_tailOffset : StandsAt ((callWithTail selector arguments tail ++ back).drop 4) (arguments.length * 32)
    (ofLength (32 * (arguments.length + 1))).bytes := by
  have hword := standsAt_words (standsAt_callWithTail selector arguments tail back).1 rfl
  rwa [Nat.zero_add, Nat.mul_comm] at hword

/-- Every argument of a call in front of its tail is read behind the selector. -/
theorem wordOf_callWithTail (h : (callWithTail selector arguments tail ++ back).length < Bytes.maxLength) (i : Nat)
    (hi : i < arguments.length) :
    wordOf ((callWithTail selector arguments tail ++ back).drop 4) i = .ok arguments[i] := by
  have hword := standsAt_word (standsAt_callWithTail selector arguments tail back).1 i
      (by rw [List.length_append]; omega)
  rw [List.getElem_append_left hi] at hword
  exact wordOf_of_standsAt (length_drop_lt h) hword

/-- The last argument of a call, an array of byte strings, is read behind the selector. -/
theorem bytesArrayOf_callWithTail {items : List Bytes}
    (h : (callWithTail selector arguments (ofBytesArray items) ++ back).length < Bytes.maxLength) :
    bytesArrayOf ((callWithTail selector arguments (ofBytesArray items) ++ back).drop 4) arguments.length = .ok items :=
  bytesArrayOf_of_standsAt (length_drop_lt h) standsAt_tailOffset (standsAt_callWithTail selector arguments _ back).2

/-- The last argument of a call, an array of words, is read behind the selector. -/
theorem wordsOf_callWithTail {items : List Word}
    (h : (callWithTail selector arguments (ofWords items) ++ back).length < Bytes.maxLength) :
    wordsOf ((callWithTail selector arguments (ofWords items) ++ back).drop 4) arguments.length = .ok items :=
  wordsOf_of_standsAt (length_drop_lt h) standsAt_tailOffset (standsAt_callWithTail selector arguments _ back).2

end

end CheckpointRelay.Abi
