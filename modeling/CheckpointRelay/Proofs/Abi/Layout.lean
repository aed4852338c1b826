import CheckpointRelay.Proofs.Controller.Batch

/-!
# How arrays lie in contract data

A call whose last argument is an array is read back behind its selector, whatever follows it, and so are its other
arguments (`arrays_read_back`). `ArrayLayout` says where the items of an array of byte strings stand: one behind the
other in whole words, each where its offset word points.
-/

namespace CheckpointRelay.Abi

/-- How many zeros fill octets up to whole words. -/
def gap (length : Nat) : Nat :=
  (32 - length % 32) % 32

/-- The padding is the gap up to the next multiple of 32. -/
theorem paddedLength_eq (n : Nat) : paddedLength n = n + gap n := by
  unfold paddedLength gap
  omega

/-- There is a word at a place, and it writes this number. -/
def NumberAt (data : Bytes) (place n : Nat) : Prop :=
  ∃ w, wordAt data place = .ok w ∧ w.toNat = n

/-- Where an array of byte strings stands in data that ends with it: at `array`, with its item of number `i` at
`start i`. The word of an index points to it. -/
structure ArrayLayout (data : Bytes) (index array : Nat) (items : List Bytes) (start : Nat → Nat) : Prop where
  head : NumberAt data (32 * index) array
  /-- The number of items stands in front. -/
  count : NumberAt data array items.length
  /-- The first item stands right behind the offset words. -/
  first : start 0 = array + 32 + 32 * items.length
  /-- An item takes a word for its length and whole words for its octets, and the next one stands right behind it. -/
  next : ∀ i (h : i < items.length), start (i + 1) = start i + 32 + (items[i].length + gap items[i].length)
  /-- The data ends behind the last item. -/
  last : start items.length = data.length
  /-- No item reaches into a later one. -/
  disjoint : ∀ i j (h : i < items.length),
    i < j → j ≤ items.length → start i + 32 + (items[i].length + gap items[i].length) ≤ start j
  /-- The offset word of an item counts from the first offset word. -/
  offset : ∀ i, i < items.length → ∃ n, NumberAt data (array + 32 + 32 * i) n ∧ array + 32 + n = start i ∧ 32 ∣ n
  /-- The length of an item stands where its offset word points, -/
  length : ∀ i (h : i < items.length), NumberAt data (start i) items[i].length
  /-- and behind it stand its octets, filled up with zeros. -/
  octets : ∀ i (h : i < items.length), StandsAt data (start i + 32) (items[i] ++ List.replicate (gap items[i].length) 0)

/-- Where an array of words stands in data that ends with it: at `array`, one word behind the other. The word of an
index points to it. -/
structure WordsLayout (data : Bytes) (index array : Nat) (items : List Word) : Prop where
  head : NumberAt data (32 * index) array
  count : NumberAt data array items.length
  item : ∀ i (h : i < items.length), wordAt data (array + 32 + 32 * i) = .ok items[i]
  last : array + 32 + 32 * items.length = data.length

/-! ## Lengths in whole words -/

/-- An encoded byte string fills whole words. -/
theorem dvd_length_ofBytes (b : Bytes) : 32 ∣ (ofBytes b).length := by
  rw [length_ofBytes]
  unfold paddedLength
  omega

/-- Encoded byte strings one behind the other fill whole words. -/
theorem dvd_length_flatMap_ofBytes (items : List Bytes) : 32 ∣ (items.flatMap ofBytes).length := by
  induction items with
  | nil => exact Nat.dvd_zero 32
  | cons item items ih =>
    rw [List.flatMap_cons, List.length_append]
    exact Nat.dvd_add (dvd_length_ofBytes item) ih

/-- An item's offset is a multiple of 32. -/
theorem dvd_offsetBehind (front back : List Bytes) : 32 ∣ offsetBehind front back :=
  Nat.dvd_add (Nat.dvd_mul_right 32 _) (dvd_length_flatMap_ofBytes front)

/-- An encoded array of byte strings fills whole words. -/
theorem dvd_length_ofBytesArray (items : List Bytes) : 32 ∣ (ofBytesArray items).length := by
  have h := dvd_length_flatMap_ofBytes items
  rw [length_ofBytesArray_eq]
  omega

/-- An encoded array of words fills whole words. -/
theorem dvd_length_ofWords (items : List Word) : 32 ∣ (ofWords items).length := by
  rw [length_ofWords]
  omega

/-- Behind the selector stand the head, with one word for the offset, and the tail. -/
theorem length_callWithTail_drop (selector : Octets 4) (arguments : List Word) (tail : Bytes) :
    ((callWithTail selector arguments tail).drop 4).length = 32 * (arguments.length + 1) + tail.length := by
  rw [callWithTail, drop_call, List.length_append, length_words, List.length_append, List.length_singleton]

/-! ## The layout of what is written -/

/-- A length that stands as a word is the number at that place. -/
theorem numberAt_of_standsAt {data : Bytes} {place n : Nat} (hn : n < UInt64.size)
    (h : StandsAt data place (ofLength n).bytes) :
    NumberAt data place n := by
  refine ⟨ofLength n, wordAt_of_standsAt h, ?_⟩
  rw [← Uint256.val_ofWord, toNat_ofLength (Nat.lt_trans hn (by decide))]

/-- Where the item of number `i` of an array stands. -/
def itemPlace (array : Nat) (items : List Bytes) (i : Nat) : Nat :=
  array + 32 + offsetBehind (items.take i) (items.drop i)

/-- The offset of item `i` is the table followed by the items before it. -/
theorem offsetBehind_take_drop (items : List Bytes) (i : Nat) :
    offsetBehind (items.take i) (items.drop i) = 32 * items.length + ((items.take i).flatMap ofBytes).length := by
  rw [offsetBehind, List.take_append_drop]

/-- The next item stands behind this one's length, octets and padding. -/
theorem itemPlace_succ (array : Nat) {items : List Bytes} {i : Nat} (h : i < items.length) :
    itemPlace array items (i + 1) = itemPlace array items i + 32 + (items[i].length + gap items[i].length) := by
  unfold itemPlace
  rw [offsetBehind_take_drop, offsetBehind_take_drop, List.take_succ_eq_append_getElem h, List.flatMap_append,
    List.flatMap_singleton, List.length_append, length_ofBytes, paddedLength_eq]
  omega

/-- A later item stands at a later place. -/
theorem itemPlace_le (array : Nat) (items : List Bytes) {i j : Nat} (hij : i ≤ j) (hj : j ≤ items.length) :
    itemPlace array items i ≤ itemPlace array items j := by
  induction hij with
  | refl => exact Nat.le_refl _
  | @step j _ ih =>
    have hstep : itemPlace array items (j + 1) = _ := itemPlace_succ array hj
    have hle := ih (Nat.le_of_succ_le hj)
    rw [Nat.succ_eq_add_one, hstep]
    omega

/-- The offset word of an item, and the item, stand in their places. -/
theorem standsAt_itemPlace {data : Bytes} {array : Nat} {items : List Bytes}
    (h : StandsAt data (array + 32) (laidOut items)) {i : Nat} (hi : i < items.length) :
    StandsAt data (array + 32 + 32 * i) (ofLength (offsetBehind (items.take i) (items.drop i))).bytes ∧
      StandsAt data (itemPlace array items i) (ofBytes items[i]) := by
  have hsplit : items.take i ++ items[i] :: items.drop (i + 1) = items := by
    rw [← List.drop_eq_getElem_cons hi, List.take_append_drop]
  have hitem : StandsAt data (array + 32) (laidOut (items.take i ++ items[i] :: items.drop (i + 1))) := hsplit.symm ▸ h
  have hplaces := standsAt_item hitem
  rwa [List.length_take_of_le (Nat.le_of_lt hi), ← List.drop_eq_getElem_cons hi] at hplaces

/-- Behind a selector, the words of a call and its array stand as they should. -/
theorem arrayLayout_callWithTail {selector : Octets 4} {arguments : List Word} {items : List Bytes}
    (h : (callWithTail selector arguments (ofBytesArray items)).length < Bytes.maxLength) :
    ArrayLayout ((callWithTail selector arguments (ofBytesArray items)).drop 4) arguments.length
      (32 * (arguments.length + 1)) items (itemPlace (32 * (arguments.length + 1)) items) := by
  have hshort := length_drop_lt h
  have hlength := length_callWithTail_drop selector arguments (ofBytesArray items)
  rw [length_ofBytesArray_eq] at hlength
  have hhead := @standsAt_tailOffset selector arguments (ofBytesArray items) []
  have htail := (standsAt_callWithTail selector arguments (ofBytesArray items) []).2
  rw [List.append_nil] at hhead htail
  rw [Nat.mul_comm] at hhead
  obtain ⟨hcount, hitems⟩ := standsAt_laidOut htail
  -- from here on only lengths matter, and `omega` shall see them as plain numbers
  generalize (callWithTail selector arguments (ofBytesArray items)).drop 4 = data at *
  generalize 32 * (arguments.length + 1) = array at *
  have hfits : ∀ n ≤ data.length, n < UInt64.size :=
    fun n hn => Bytes.lt_size_of_lt_maxLength (Nat.lt_of_le_of_lt hn hshort)
  clear hshort h
  refine ⟨?_, ?_, ?_, ?_, ?_, ?_, ?_, ?_, ?_⟩
  · -- head
    exact numberAt_of_standsAt (hfits _ (by omega)) hhead
  · -- count
    exact numberAt_of_standsAt (hfits _ (by omega)) hcount
  · -- first
    rw [itemPlace, offsetBehind_take_drop, List.take_zero, List.flatMap_nil, List.length_nil]
    rfl
  · -- next
    exact fun i hi => itemPlace_succ array hi
  · -- last
    rw [itemPlace, offsetBehind_take_drop, List.take_length, hlength]
    omega
  · -- disjoint
    intro i j hi hij hj
    rw [← itemPlace_succ array hi]
    exact itemPlace_le array items hij hj
  · -- offset
    intro i hi
    obtain ⟨hword, hitem⟩ := standsAt_itemPlace hitems hi
    have hle := hitem.le
    have hplace : itemPlace array items i = array + 32 + offsetBehind (items.take i) (items.drop i) := rfl
    have hoffset : offsetBehind (items.take i) (items.drop i) ≤ data.length := by omega
    exact ⟨_, numberAt_of_standsAt (hfits _ hoffset) hword, hplace.symm, dvd_offsetBehind _ _⟩
  · -- length
    intro i hi
    obtain ⟨-, hitem⟩ := standsAt_itemPlace hitems hi
    have hpad := le_paddedLength items[i].length
    have hle := hitem.le
    rw [length_ofBytes] at hle
    exact numberAt_of_standsAt (hfits _ (by omega)) hitem.left
  · -- octets
    intro i hi
    obtain ⟨-, hitem⟩ := standsAt_itemPlace hitems hi
    have hpadded := hitem.right
    have hzeros : paddedLength items[i].length - items[i].length = gap items[i].length := by
      rw [paddedLength_eq]
      omega
    rwa [(ofLength _).length_eq, padded, hzeros] at hpadded

/-- Call data that ends in an array of words has the array's layout behind its head. -/
theorem wordsLayout_callWithTail {selector : Octets 4} {arguments items : List Word}
    (h : (callWithTail selector arguments (ofWords items)).length < Bytes.maxLength) :
    WordsLayout ((callWithTail selector arguments (ofWords items)).drop 4) arguments.length
      (32 * (arguments.length + 1)) items := by
  have hshort := length_drop_lt h
  have hlength := length_callWithTail_drop selector arguments (ofWords items)
  rw [length_ofWords] at hlength
  have hhead := @standsAt_tailOffset selector arguments (ofWords items) []
  have htail := (standsAt_callWithTail selector arguments (ofWords items) []).2
  rw [List.append_nil] at hhead htail
  rw [Nat.mul_comm] at hhead
  have hcount := htail.left
  have hwords := htail.right
  rw [(ofLength _).length_eq] at hwords
  have hfits : ∀ n ≤ ((callWithTail selector arguments (ofWords items)).drop 4).length, n < UInt64.size :=
    fun n hn => Bytes.lt_size_of_lt_maxLength (Nat.lt_of_le_of_lt hn hshort)
  refine ⟨numberAt_of_standsAt (hfits _ (by omega)) hhead, numberAt_of_standsAt (hfits _ (by omega)) hcount, ?_,
    by omega⟩
  intro i hi
  have hsplit : items = items.take i ++ items[i] :: items.drop (i + 1) := by
    rw [← List.drop_eq_getElem_cons hi, List.take_append_drop]
  have hitem := wordAt_of_standsAt (standsAt_words hwords hsplit)
  rwa [List.length_take_of_le (Nat.le_of_lt hi)] at hitem

/-- What is behind the selector of a call whose last argument is an array reads back at the index of the array, whatever
follows, and lies in whole words. -/
theorem arrays_read_back (selector : Octets 4) (arguments : List Word) (items : List Bytes) (words : List Word)
    (back : Bytes) (hitems : (callWithTail selector arguments (ofBytesArray items) ++ back).length < Bytes.maxLength)
    (hwords : (callWithTail selector arguments (ofWords words) ++ back).length < Bytes.maxLength) :
    let data := (callWithTail selector arguments (ofBytesArray items)).drop 4
    let data' := (callWithTail selector arguments (ofWords words)).drop 4
    (bytesArrayOf (data ++ back) arguments.length = .ok items ∧
      ∀ i (h : i < arguments.length), wordOf (data ++ back) i = .ok arguments[i]) ∧
    (wordsOf (data' ++ back) arguments.length = .ok words ∧
      ∀ i (h : i < arguments.length), wordOf (data' ++ back) i = .ok arguments[i]) ∧
    Multicall.decode (Multicall.encode items ++ back) = .ok items ∧
    (∃ array start, 32 ∣ array ∧ ArrayLayout data arguments.length array items start) ∧
    (∃ array, 32 ∣ array ∧ WordsLayout data' arguments.length array words) ∧ 32 ∣ data.length ∧ 32 ∣ data'.length := by
  intro data data'
  have hselector : ∀ tail, 4 ≤ (callWithTail selector arguments tail).length := by
    intro tail
    rw [callWithTail, List.length_append, length_call]
    omega
  have hdata : data ++ back = (callWithTail selector arguments (ofBytesArray items) ++ back).drop 4 :=
    (List.drop_append_of_le_length (hselector _)).symm
  have hdata' : data' ++ back = (callWithTail selector arguments (ofWords words) ++ back).drop 4 :=
    (List.drop_append_of_le_length (hselector _)).symm
  have hlength := length_callWithTail_drop selector arguments (ofBytesArray items)
  have hlength' := length_callWithTail_drop selector arguments (ofWords words)
  have hbatch : (Multicall.encode items ++ back).length < Bytes.maxLength := by
    refine Nat.lt_of_le_of_lt ?_ hitems
    simp only [Multicall.encode, callWithTail, List.length_append, length_call, List.length_nil, List.length_singleton]
    omega
  have hshort : ∀ tail, (callWithTail selector arguments tail ++ back).length < Bytes.maxLength →
      (callWithTail selector arguments tail).length < Bytes.maxLength := by
    intro tail h
    rw [List.length_append] at h
    omega
  rw [hdata, hdata']
  refine ⟨⟨bytesArrayOf_callWithTail hitems, wordOf_callWithTail hitems⟩,
    ⟨wordsOf_callWithTail hwords, wordOf_callWithTail hwords⟩,
    Multicall.decode_encode hbatch, ⟨_, _, Nat.dvd_mul_right 32 _, arrayLayout_callWithTail (hshort _ hitems)⟩,
    ⟨_, Nat.dvd_mul_right 32 _, wordsLayout_callWithTail (hshort _ hwords)⟩, ?_, ?_⟩
  · rw [hlength]
    exact Nat.dvd_add (Nat.dvd_mul_right 32 _) (dvd_length_ofBytesArray items)
  · rw [hlength']
    exact Nat.dvd_add (Nat.dvd_mul_right 32 _) (dvd_length_ofWords words)

/-- Two words, and behind them an empty byte string, one of a single octet and one of a whole word and one octet. -/
theorem arrays_read_back_sample :
    (callWithTail (selector Signature.multicall) [ofLength 1, ofLength 2]
        (ofBytesArray [[], [7], List.replicate 33 9]) ++ [1, 2, 3]).length < Bytes.maxLength ∧
      (callWithTail (selector Signature.multicall) [ofLength 1, ofLength 2] (ofWords [ofLength 5]) ++
        [1, 2, 3]).length < Bytes.maxLength ∧
      bytesArrayOf ((callWithTail (selector Signature.multicall) [ofLength 1, ofLength 2]
        (ofBytesArray [[], [7], List.replicate 33 9])).drop 4 ++ [1, 2, 3]) 2 = .ok [[], [7], List.replicate 33 9] := by
  have hitems : (callWithTail (selector Signature.multicall) [ofLength 1, ofLength 2]
      (ofBytesArray [[], [7], List.replicate 33 9]) ++ [1, 2, 3]).length < Bytes.maxLength := by
    simp only [callWithTail, List.length_append, length_call, length_ofBytesArray_eq, List.flatMap_cons,
      List.flatMap_nil, length_ofBytes]
    decide
  have hwords : (callWithTail (selector Signature.multicall) [ofLength 1, ofLength 2] (ofWords [ofLength 5]) ++
      [1, 2, 3]).length < Bytes.maxLength := by
    simp only [callWithTail, List.length_append, length_call, length_ofWords]
    decide
  exact ⟨hitems, hwords, (arrays_read_back _ _ _ _ _ hitems hwords).1.1⟩

end CheckpointRelay.Abi
