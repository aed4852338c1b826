import Mathlib.Data.Nat.Digits.Lemmas
import CheckpointRelay.Proofs.Result
import CheckpointRelay.Proofs.Text.Utf8
import CheckpointRelay.Text.Base58

/-!
# Exactly which texts are Base58

Octets and digits are two ways to write zeros and a number behind them, in base 256 and in base 58. A row of digits is
determined by how many zeros it starts with and by its number (`numeral_self`), so reading is inverse to writing in both
directions: of all texts, only the written form of a byte string reads as it (`decodeOctets_eq_ok_iff`), and only the
checked form of a payload as that payload (`decodeCheck_eq_ok_iff`).
-/

namespace CheckpointRelay.Base58

/-! ## Rows of digits -/

/-- Zeros, and the digits of a number without leading zeros behind them. -/
def numeral (base zeros n : Nat) : List Nat :=
  List.replicate zeros 0 ++ (Nat.digits base n).reverse

/-- How many zeros a row of digits starts with. -/
def leadingZeros (ds : List Nat) : Nat :=
  (ds.takeWhile (· = 0)).length

/-- The number that a row of digits writes, most significant digit first. -/
def value (base : Nat) (ds : List Nat) : Nat :=
  Nat.ofDigits base ds.reverse

section

variable {base : Nat}

/-- The value of a numeral, digit by digit from the highest. -/
theorem value_eq_foldl (base : Nat) (ds : List Nat) : value base ds = ds.foldl (fun n d => n * base + d) 0 := by
  simp only [value, Nat.ofDigits_eq_foldr, List.foldr_reverse, Nat.cast_id, Nat.mul_comm, Nat.add_comm]

/-- A numeral has the value it was written for, whatever its leading zeros. -/
theorem value_numeral (base zeros n : Nat) : value base (numeral base zeros n) = n := by
  induction zeros with
  | zero => rw [numeral, value, List.replicate_zero, List.nil_append, List.reverse_reverse, Nat.ofDigits_digits]
  | succ zeros ih =>
    rw [numeral, List.replicate_succ, List.cons_append, value, Nat.ofDigits_reverse_zero_cons]
    exact ih

/-- A numeral has the leading zeros it was written with. -/
theorem leadingZeros_numeral (base zeros n : Nat) : leadingZeros (numeral base zeros n) = zeros := by
  induction zeros with
  | zero =>
    rw [numeral, List.replicate_zero, List.nil_append]
    cases hrow : (Nat.digits base n).reverse with
    | nil => rfl
    | cons d ds =>
      have hdigits : Nat.digits base n = (d :: ds).reverse := List.reverse_eq_iff.mp hrow
      have hn : n ≠ 0 := by
        rintro rfl
        simp at hrow
      have hd : d ≠ 0 := by
        have hlast := Nat.getLast_digit_ne_zero base hn
        simpa only [hdigits, List.getLast_reverse, List.head_cons] using hlast
      rw [leadingZeros, List.takeWhile_cons, if_neg (by simpa using hd), List.length_nil]
  | succ zeros ih =>
    rw [leadingZeros, numeral, List.replicate_succ, List.cons_append, List.takeWhile_cons, if_pos (decide_eq_true rfl),
      List.length_cons]
    exact congrArg (· + 1) ih

/-- A row of digits is that of its zeros and its number. -/
theorem numeral_self (hbase : 1 < base) {ds : List Nat} (h : ∀ d ∈ ds, d < base) :
    numeral base (leadingZeros ds) (value base ds) = ds := by
  induction ds with
  | nil => rw [numeral, value, List.reverse_nil, Nat.ofDigits_nil, Nat.digits_zero]; rfl
  | cons d ds ih =>
    by_cases hd : d = 0
    · subst hd
      have hzeros : leadingZeros (0 :: ds) = leadingZeros ds + 1 := by
        rw [leadingZeros, List.takeWhile_cons, if_pos (decide_eq_true rfl), List.length_cons, leadingZeros]
      rw [hzeros, value, Nat.ofDigits_reverse_zero_cons, numeral, List.replicate_succ, List.cons_append]
      exact congrArg (0 :: ·) (ih fun d hmem => h d (List.mem_cons_of_mem 0 hmem))
    · have hzeros : leadingZeros (d :: ds) = 0 := by
        rw [leadingZeros, List.takeWhile_cons, if_neg (by simpa using hd), List.length_nil]
      have hdigits : Nat.digits base (Nat.ofDigits base (d :: ds).reverse) = (d :: ds).reverse := by
        refine Nat.digits_ofDigits base hbase _ (fun d' hmem => h d' (List.mem_reverse.mp hmem)) fun _ => ?_
        rw [List.getLast_reverse, List.head_cons]
        exact hd
      rw [hzeros, numeral, value, hdigits, List.replicate_zero, List.nil_append, List.reverse_reverse]

/-- The digits of a numeral are below the base. -/
theorem numeral_lt (hbase : 1 < base) (zeros n : Nat) : ∀ d ∈ numeral base zeros n, d < base := by
  intro d hmem
  rcases List.mem_append.mp hmem with hzero | hdigit
  · rw [List.eq_of_mem_replicate hzero]
    exact Nat.lt_of_lt_of_le Nat.zero_lt_one (Nat.le_of_lt hbase)
  · exact Nat.digits_lt_base hbase (List.mem_reverse.mp hdigit)

end

/-! ## Octets and digits as rows -/

/-- The base58 digits of a number, the highest first. -/
theorem digits_eq (n : Nat) : digits n = (Nat.digits 58 n).reverse.map digit := by
  fun_induction digits n with
  | case1 => rfl
  | case2 n hn ih =>
    rw [ih, Nat.digits_def' (by decide) (Nat.pos_of_ne_zero hn), List.reverse_cons, List.map_append, List.map_singleton]

/-- The octets of a number, the highest first. -/
theorem octets_eq (n : Nat) : octets n = (Nat.digits 256 n).reverse.map UInt8.ofNat := by
  fun_induction octets n with
  | case1 => rfl
  | case2 n hn ih =>
    have hlast : UInt8.ofNat (n % 256) = UInt8.ofNat n := by
      apply UInt8.toNat_inj.mp
      simp only [UInt8.toNat_ofNat', Nat.mod_mod]
    rw [ih, Nat.digits_def' (by decide) (Nat.pos_of_ne_zero hn), List.reverse_cons, List.map_append, List.map_singleton,
      hlast]

/-- The number of octets is their value to base 256. -/
theorem toNat_eq_value (b : Bytes) : Bytes.toNat b = value 256 (b.map UInt8.toNat) := by
  rw [value_eq_foldl, List.foldl_map, Bytes.toNat]

/-- Leading zero octets are leading zeros of the numeral. -/
theorem length_zeros_eq (b : Bytes) : (b.takeWhile (· = 0)).length = leadingZeros (b.map UInt8.toNat) := by
  have hzero : (fun octet : UInt8 => decide (octet = 0)) = (fun n : Nat => decide (n = 0)) ∘ UInt8.toNat := by
    funext octet
    exact decide_eq_decide.mpr (UInt8.toNat_inj (b := 0)).symm
  rw [leadingZeros, List.takeWhile_map, List.length_map, hzero]

/-- Digits below 256 are kept by their octets. -/
theorem map_toNat_ofNat {ds : List Nat} (h : ∀ d ∈ ds, d < 256) : (ds.map UInt8.ofNat).map UInt8.toNat = ds := by
  rw [List.map_map]
  exact (List.map_congr_left fun d hd => Bytes.toNat_octet (h d hd)).trans (List.map_id ds)

/-- The written form of a byte string: as many zeros in front, and its number. -/
theorem encodeChars_eq (b : Bytes) :
    encodeChars b = (numeral 58 (leadingZeros (b.map UInt8.toNat)) (value 256 (b.map UInt8.toNat))).map digit := by
  have hone : digit 0 = '1' := rfl
  rw [encodeChars, digits_eq, length_zeros_eq, toNat_eq_value, numeral, List.map_append, List.map_replicate, hone]

/-- The byte string of a row of digits: as many zeros in front, and its number. -/
theorem decodeOctets_eq_ok {text b : Bytes} : decodeOctets text = .ok b ↔
    ∃ ds, digitValues 0 text = .ok ds ∧ (numeral 256 (leadingZeros ds) (value 58 ds)).map UInt8.ofNat = b := by
  have hbytes : ∀ ds : List Nat,
      List.replicate (ds.takeWhile (· = 0)).length 0 ++ octets (ds.foldl (fun n d => n * 58 + d) 0) =
      (numeral 256 (leadingZeros ds) (value 58 ds)).map UInt8.ofNat := by
    intro ds
    rw [octets_eq, ← value_eq_foldl, numeral, List.map_append, List.map_replicate]
    rfl
  simp only [decodeOctets, Result.bind_eq_ok, Result.pure_eq_ok, hbytes]

/-! ## Reading and writing -/

/-- Every number below fifty-eight is the value of its digit, which is one octet of ASCII. -/
theorem digitValue?_digit {n : Nat} (hn : n < 58) :
    ∃ octet : UInt8, String.utf8EncodeChar (digit n) = [octet] ∧ ¬128 ≤ octet ∧ digitValue? octet = some n := by
  have key : ∀ n : Fin 58, String.utf8EncodeChar (digit n.val) = [UInt8.ofNat (digit n.val).toNat] ∧
      ¬128 ≤ UInt8.ofNat (digit n.val).toNat ∧ digitValue? (UInt8.ofNat (digit n.val).toNat) = some n.val := by decide
  exact ⟨_, key ⟨n, hn⟩⟩

set_option maxRecDepth 2000 in
/-- Every octet with a value is the digit of a number below fifty-eight. -/
theorem digit_of_digitValue? {octet : UInt8} {n : Nat} (hascii : ¬128 ≤ octet) (h : digitValue? octet = some n) :
    n < 58 ∧ String.utf8EncodeChar (digit n) = [octet] := by
  have key : ∀ o : Fin 256, ¬128 ≤ UInt8.ofNat o.val → ∀ n ∈ digitValue? (UInt8.ofNat o.val),
      n < 58 ∧ String.utf8EncodeChar (digit n) = [UInt8.ofNat o.val] := by decide
  have hkey := key ⟨octet.toNat, octet.toNat_lt⟩
  simp only [UInt8.ofNat_toNat] at hkey
  exact hkey hascii n h

/-- Octets have values exactly if they are the octets of digits. -/
theorem digitValues_eq_ok {position : Nat} {text : Bytes} {ds : List Nat} :
    digitValues position text = .ok ds ↔ (∀ d ∈ ds, d < 58) ∧ (ds.map digit).flatMap String.utf8EncodeChar = text := by
  -- by induction over the octets: each digit is written as a single octet, so digits and octets go in step
  induction text generalizing position ds with
  | nil =>
    constructor
    · intro h
      obtain rfl := Except.ok.inj h
      exact ⟨nofun, rfl⟩
    · rintro ⟨hlt, h⟩
      cases ds with
      | nil => rfl
      | cons d ds =>
        obtain ⟨octet, hoctet, -⟩ := digitValue?_digit (hlt d List.mem_cons_self)
        rw [List.map_cons, List.flatMap_cons, hoctet] at h
        nomatch h
  | cons octet text ih =>
    unfold digitValues
    rw [Result.unless_eq_ok]
    constructor
    · rintro ⟨hascii, h⟩
      split at h
      · nomatch h
      · rename_i n hn
        obtain ⟨rest, hrest, h⟩ := Result.bind_eq_ok.mp h
        obtain rfl := Result.pure_eq_ok.mp h
        obtain ⟨hlt, hdigit⟩ := digit_of_digitValue? hascii hn
        obtain ⟨hall, htext⟩ := ih.mp hrest
        refine ⟨List.forall_mem_cons.mpr ⟨hlt, hall⟩, ?_⟩
        rw [List.map_cons, List.flatMap_cons, hdigit, htext, List.singleton_append]
    · rintro ⟨hlt, h⟩
      cases ds with
      | nil => nomatch h
      | cons d ds =>
        obtain ⟨hd, hall⟩ := List.forall_mem_cons.mp hlt
        obtain ⟨first, hfirst, hascii, hvalue⟩ := digitValue?_digit hd
        rw [List.map_cons, List.flatMap_cons, hfirst, List.singleton_append] at h
        obtain ⟨rfl, htext⟩ := List.cons.inj h
        refine ⟨hascii, ?_⟩
        rw [hvalue]
        exact Result.bind_eq_ok.mpr ⟨ds, ih.mpr ⟨hall, htext⟩, rfl⟩

/-- Characters are read as a byte string exactly if they are its written form. -/
theorem decodeOctets_eq_ok_iff {cs : List Char} {b : Bytes} :
    decodeOctets (cs.flatMap String.utf8EncodeChar) = .ok b ↔ cs = encodeChars b := by
  rw [decodeOctets_eq_ok, encodeChars_eq]
  constructor
  · rintro ⟨ds, hds, rfl⟩
    obtain ⟨hlt, htext⟩ := digitValues_eq_ok.mp hds
    rw [map_toNat_ofNat (numeral_lt (by decide) _ _), leadingZeros_numeral, value_numeral, numeral_self (by decide) hlt]
    exact (Utf8.flatMap_encodeChar_injective htext).symm
  · intro h
    have hoctets : ∀ d ∈ b.map UInt8.toNat, d < 256 := by
      intro d hd
      obtain ⟨octet, -, rfl⟩ := List.mem_map.mp hd
      exact octet.toNat_lt
    refine ⟨_, digitValues_eq_ok.mpr ⟨numeral_lt (by decide) _ _, congrArg _ h.symm⟩, ?_⟩
    rw [leadingZeros_numeral, value_numeral, numeral_self (by decide) hoctets, List.map_map]
    exact (List.map_congr_left fun octet _ => UInt8.ofNat_toNat).trans (List.map_id b)

/-- A checksum is four octets. -/
theorem length_checksum (payload : Bytes) : (checksum payload).length = 4 := by
  rw [checksum, List.length_take, (Sha256.digest _).length_eq]
  rfl

/-- A text is the checked form of a payload exactly if it reads as that payload. -/
theorem decodeCheck_eq_ok_iff {text : String} {payload : Bytes} :
    decodeCheck text = .ok payload ↔ text = encodeCheck payload := by
  have hchars : ∀ b : Bytes, decodeOctets (Utf8.encode text) = .ok b ↔ text = String.ofList (encodeChars b) := by
    intro b
    rw [Utf8.encode, decodeOctets_eq_ok_iff]
    exact ⟨fun h => by rw [← h, String.ofList_toList], fun h => by rw [h, String.toList_ofList]⟩
  simp only [decodeCheck, Result.bind_eq_ok, hchars, Result.unless_eq_ok]
  constructor
  · rintro ⟨all, htext, -, h⟩
    split at h
    · rename_i hchecksum
      obtain rfl := Result.pure_eq_ok.mp h
      rw [htext, encodeCheck, hchecksum, List.take_append_drop]
    · cases h
  · intro h
    have hlength : (payload ++ checksum payload).length - 4 = payload.length := by
      rw [List.length_append, length_checksum, Nat.add_sub_cancel]
    refine ⟨payload ++ checksum payload, h, ?_, ?_⟩
    · rw [List.length_append, length_checksum]
      omega
    · rw [hlength, List.take_left, List.drop_left, if_pos rfl]
      rfl

/-! ## The first digit -/

/-- The first digit of a number is the one in whose range, at its place, the number lies. -/
theorem digits_eq_cons {q k n : Nat} (hpos : 0 < q) (hq : q < 58) (hlow : q * 58 ^ k ≤ n)
    (hhigh : n < (q + 1) * 58 ^ k) :
    ∃ rest, digits n = digit q :: rest := by
  induction k generalizing n with
  | zero =>
    obtain rfl : n = q := by omega
    rw [digits, dif_neg (Nat.ne_of_gt hpos), Nat.div_eq_of_lt hq, Nat.mod_eq_of_lt hq, digits, dif_pos rfl]
    exact ⟨[], rfl⟩
  | succ k ih =>
    rw [Nat.pow_succ, ← Nat.mul_assoc] at hlow hhigh
    obtain ⟨rest, hrest⟩ :=
      ih ((Nat.le_div_iff_mul_le (by decide)).mpr hlow) ((Nat.div_lt_iff_lt_mul (by decide)).mpr hhigh)
    have hn : n ≠ 0 := by
      have : 0 < q * 58 ^ k * 58 := Nat.mul_pos (Nat.mul_pos hpos (Nat.pow_pos (by decide))) (by decide)
      omega
    rw [digits, dif_neg hn, hrest]
    exact ⟨rest ++ [digit (n % 58)], rfl⟩

end CheckpointRelay.Base58
