import CheckpointRelay.Proofs.Bytes
import CheckpointRelay.Text.Utf8

/-!
# Text reads back from its octets

The octets of a character are taken as that character, whatever follows them (`starts_encodeChar`), so every text
decodes from its own octets (`decode_encode`), and texts with the same octets are the same.
-/

namespace CheckpointRelay.Utf8

/-- The bits of a tail octet are read back. -/
theorem tailBits_octet {b : Nat} (h : b < 64) : tailBits (UInt8.ofNat (b + 128)) = b := by
  rw [tailBits, Bytes.toNat_octet (by omega)]
  omega

/-- An octet from 128 to 191 is a tail. -/
theorem isTail_octet {b : Nat} (h : b < 64) : isTail (UInt8.ofNat (b + 128)) = true := by
  have hvalue : (UInt8.ofNat (b + 128)).toNat = b + 128 := Bytes.toNat_octet (by omega)
  simp only [isTail, Bool.and_eq_true, decide_eq_true_eq, UInt8.le_iff_toNat_le, hvalue, UInt8.toNat_ofNat]
  omega

/-- The width of a character by the number of its first octet. -/
theorem width?_octet {m : Nat} (h : m < 256) : width? (UInt8.ofNat m) =
    if m < 0x80 then some 1 else if 0xC2 ≤ m ∧ m ≤ 0xDF then some 2 else if 0xE0 ≤ m ∧ m ≤ 0xEF then some 3
    else if 0xF0 ≤ m ∧ m ≤ 0xF4 then some 4 else none := by
  simp only [width?, UInt8.lt_iff_toNat_lt, UInt8.le_iff_toNat_le, Bytes.toNat_octet h, UInt8.toNat_ofNat,
    Bool.and_eq_true, decide_eq_true_eq]

/-- A continuation octet may follow a first octet unless it makes an overlong form, a surrogate or a number above the
last code point. -/
theorem mayFollow_octets {m b : Nat} (hm : m < 256) (hb : b < 64) (hthree : m = 0xE0 → 32 ≤ b)
    (hsurrogate : m = 0xED → b < 32) (hfour : m = 0xF0 → 16 ≤ b) (hlast : m = 0xF4 → b < 16) :
    mayFollow (UInt8.ofNat m) (UInt8.ofNat (b + 128)) = true := by
  have hsecond : (UInt8.ofNat (b + 128)).toNat = b + 128 := Bytes.toNat_octet (by omega)
  simp only [mayFollow, isTail, ← UInt8.toNat_inj, UInt8.le_iff_toNat_le, Bytes.toNat_octet hm, hsecond,
    UInt8.toNat_ofNat]
  repeat' split
  all_goals
    simp only [Bool.and_eq_true, decide_eq_true_eq]
    omega

/-- A character stands in front of octets, and what follows it is the rest. -/
def Starts (octets : Bytes) (c : Char) (rest : Bytes) : Prop :=
  ∃ first others shorter, octets = first :: others ∧ next first others = .char c rest shorter

/-- An encoded character is read back, whatever follows. -/
theorem starts_encodeChar (c : Char) (rest : Bytes) : Starts (String.utf8EncodeChar c ++ rest) c rest := by
  have hvalid : c.val.toNat < 0xD800 ∨ 0xDFFF < c.val.toNat ∧ c.val.toNat < 0x110000 := c.valid
  have hself : Char.ofNat c.val.toNat = c := Char.ofNat_toNat c
  unfold String.utf8EncodeChar
  dsimp only
  generalize c.val.toNat = v at *
  have hlast : v % 64 < 64 := Nat.mod_lt _ (by decide)
  have hmiddle : v / 64 % 64 < 64 := Nat.mod_lt _ (by decide)
  -- one case for each width, from one octet to four, in the order of the encoder's own tests
  split
  · rename_i h
    have hwidth : width? (UInt8.ofNat v) = some 1 := by
      rw [width?_octet (by omega), if_pos (by omega)]
    refine ⟨_, rest, Nat.lt_succ_self _, rfl, ?_⟩
    simp only [next, hwidth, Bytes.toNat_octet (show v < 256 by omega), hself]
  split
  · rename_i h
    have hwidth : width? (UInt8.ofNat (v / 64 % 32 + 192)) = some 2 := by
      rw [width?_octet (by omega), if_neg (by omega), if_pos (by omega)]
    have hvalue : (UInt8.ofNat (v / 64 % 32 + 192)).toNat % 32 * 64 + v % 64 = v := by
      rw [Bytes.toNat_octet (by omega)]
      omega
    refine ⟨_, UInt8.ofNat (v % 64 + 128) :: rest, by grind, rfl, ?_⟩
    simp only [next, hwidth, isTail_octet hlast, if_true, tailBits_octet hlast, hvalue, hself]
  split
  · rename_i h
    have hwidth : width? (UInt8.ofNat (v / 4096 % 16 + 224)) = some 3 := by
      rw [width?_octet (by omega), if_neg (by omega), if_neg (by omega), if_pos (by omega)]
    have hvalue : (UInt8.ofNat (v / 4096 % 16 + 224)).toNat % 16 * 4096 + v / 64 % 64 * 64 + v % 64 = v := by
      rw [Bytes.toNat_octet (by omega)]
      omega
    have hfollow : mayFollow (UInt8.ofNat (v / 4096 % 16 + 224)) (UInt8.ofNat (v / 64 % 64 + 128)) = true := by
      apply mayFollow_octets <;> omega
    refine ⟨_, UInt8.ofNat (v / 64 % 64 + 128) :: UInt8.ofNat (v % 64 + 128) :: rest, by grind, rfl, ?_⟩
    simp only [next, hwidth, hfollow, Bool.not_true, Bool.false_eq_true, if_false, isTail_octet hlast, if_true,
      tailBits_octet hlast, tailBits_octet hmiddle, hvalue, hself]
  · rename_i h
    have hwidth : width? (UInt8.ofNat (v / 262144 % 8 + 240)) = some 4 := by
      rw [width?_octet (by omega), if_neg (by omega), if_neg (by omega), if_neg (by omega), if_pos (by omega)]
    have hvalue : (UInt8.ofNat (v / 262144 % 8 + 240)).toNat % 8 * 262144 + v / 4096 % 64 * 4096 +
        v / 64 % 64 * 64 + v % 64 = v := by
      rw [Bytes.toNat_octet (by omega)]
      omega
    have hfollow : mayFollow (UInt8.ofNat (v / 262144 % 8 + 240)) (UInt8.ofNat (v / 4096 % 64 + 128)) = true := by
      apply mayFollow_octets <;> omega
    have hsecond : v / 4096 % 64 < 64 := Nat.mod_lt _ (by decide)
    refine ⟨_, UInt8.ofNat (v / 4096 % 64 + 128) :: UInt8.ofNat (v / 64 % 64 + 128) ::
      UInt8.ofNat (v % 64 + 128) :: rest, by grind, rfl, ?_⟩
    simp only [next, hwidth, hfollow, Bool.not_true, Bool.false_eq_true, if_false, isTail_octet hlast,
      isTail_octet hmiddle, if_true, tailBits_octet hlast, tailBits_octet hmiddle, tailBits_octet hsecond, hvalue,
      hself]

/-- A text is empty if it has no octets. -/
theorem eq_empty_of_encode {s : String} (h : encode s = []) : s = "" := by
  rw [encode, List.flatMap_eq_nil_iff] at h
  have hchars : s.toList = [] := by
    cases hs : s.toList with
    | nil => rfl
    | cons c cs =>
      obtain ⟨first, others, _, hoctets, _⟩ := starts_encodeChar c []
      rw [h c (hs ▸ List.mem_cons_self)] at hoctets
      nomatch hoctets
  exact String.toList_eq_nil_iff.mp hchars

/-- Encoded characters are read back from any place on. -/
theorem decodeFrom_encode (start : Nat) (cs : List Char) :
    decodeFrom start (cs.flatMap String.utf8EncodeChar) = .ok cs := by
  induction cs generalizing start with
  | nil => rw [List.flatMap_nil, decodeFrom]
  | cons c cs ih =>
    obtain ⟨first, others, shorter, hoctets, hnext⟩ := starts_encodeChar c (cs.flatMap String.utf8EncodeChar)
    rw [List.flatMap_cons, hoctets, decodeFrom, hnext]
    dsimp only
    rw [ih]
    rfl

/-- Octets that characters write are read as these, also where ill-formed ones would be replaced. -/
theorem lossyChars_encode (cs : List Char) : lossyChars (cs.flatMap String.utf8EncodeChar) = cs := by
  induction cs with
  | nil => rw [List.flatMap_nil, lossyChars]
  | cons c cs ih =>
    obtain ⟨first, others, shorter, hoctets, hnext⟩ := starts_encodeChar c (cs.flatMap String.utf8EncodeChar)
    rw [List.flatMap_cons, hoctets, lossyChars, hnext]
    exact congrArg (c :: ·) ih

/-- Characters are determined by their octets. -/
theorem flatMap_encodeChar_injective {cs cs' : List Char}
    (h : cs.flatMap String.utf8EncodeChar = cs'.flatMap String.utf8EncodeChar) :
    cs = cs' := by
  have hread := decodeFrom_encode 0 cs
  rw [h, decodeFrom_encode] at hread
  exact (Except.ok.inj hread).symm

/-- What is written reads back. -/
theorem decode_encode (s : String) : decode (encode s) = .ok s := by
  rw [decode, encode, decodeFrom_encode]
  exact congrArg Except.ok (String.ofList_toList)

/-- What is written reads back, also where ill-formed octets would be replaced. -/
theorem decodeLossy_encode (s : String) : decodeLossy (encode s) = s := by
  rw [decodeLossy, encode, lossyChars_encode, String.ofList_toList]

end CheckpointRelay.Utf8
