import CheckpointRelay.Proofs.Bytes
import CheckpointRelay.Proofs.Result
import CheckpointRelay.Proofs.Text.Digits
import CheckpointRelay.Proofs.Text.Utf8
import CheckpointRelay.Text.Hex

/-!
# Exactly which texts are hexadecimal

`Spells cs b` says that the characters `cs` are the digits of the octets `b`, each digit in either case. Reading accepts
these texts and no others (`decodeChars_eq_ok_iff`).
-/

namespace CheckpointRelay.Hex

/-- The characters are the digits of the byte string, each in either case. -/
def Spells (cs : List Char) (b : Bytes) : Prop :=
  cs.map Char.toLower = encodeChars b

/-- The digits of octets spell them. -/
theorem spells_encodeChars (b : Bytes) : Spells (encodeChars b) b := by
  have hdigits : ∀ n : Fin 16, (Text.hexDigit n.val).toLower = Text.hexDigit n.val := by decide
  induction b with
  | nil => rfl
  | cons octet rest ih =>
    have hlt : octet.toNat < 256 := octet.toNat_lt
    have hhigh := hdigits ⟨octet.toNat / 16, by omega⟩
    have hlow := hdigits ⟨octet.toNat % 16, by omega⟩
    rw [Spells, encodeChars, List.flatMap_cons, List.map_append, pair, List.map_cons, List.map_singleton, hhigh, hlow]
    exact congrArg (_ ++ ·) ih

/-- A capital letter is an ASCII character. -/
theorem toNat_lt_of_upper {c : Char} (h : c.val ≥ 'A'.val ∧ c.val ≤ 'Z'.val) : c.toNat < 128 :=
  Nat.lt_of_le_of_lt (UInt32.le_iff_toNat_le.mp h.2) (by decide)

/-- Lowering a letter twice lowers it once. -/
theorem toLower_toLower (c : Char) : c.toLower.toLower = c.toLower := by
  have key : ∀ n : Fin 128, (Char.ofNat n.val).toLower.toLower = (Char.ofNat n.val).toLower := by decide
  by_cases hupper : c.val ≥ 'A'.val ∧ c.val ≤ 'Z'.val
  · have hkey := key ⟨c.toNat, toNat_lt_of_upper hupper⟩
    rwa [Char.ofNat_toNat] at hkey
  · have hsame : c.toLower = c := by
      unfold Char.toLower
      rw [dif_neg hupper]
    rw [hsame, hsame]

/-- Digits in lower case are digits of the same octets. -/
theorem spells_map_toLower_iff {cs : List Char} {b : Bytes} : Spells (cs.map Char.toLower) b ↔ Spells cs b := by
  unfold Spells
  simp only [List.map_map, Function.comp_def, toLower_toLower]

/-- Each of the characters stands for a number below sixteen, in either case. -/
theorem Spells.digit {cs : List Char} {b : Bytes} (h : Spells cs b) {c : Char} (hc : c ∈ cs) :
    ∃ n < 16, c.toLower = Text.hexDigit n := by
  have hmem : c.toLower ∈ encodeChars b := h ▸ List.mem_map_of_mem hc
  obtain ⟨octet, -, hpair⟩ := List.mem_flatMap.mp hmem
  have hlt : octet.toNat < 256 := octet.toNat_lt
  rw [pair, List.mem_cons, List.mem_singleton] at hpair
  rcases hpair with hhigh | hlow
  · exact ⟨_, by omega, hhigh⟩
  · exact ⟨_, by omega, hlow⟩

/-- A character whose small letter is a hexadecimal digit is an ASCII character. -/
theorem toNat_lt_of_toLower {c : Char} {n : Nat} (hn : n < 16) (h : c.toLower = Text.hexDigit n) : c.toNat < 128 := by
  have hsmall : ∀ n : Fin 16, (Text.hexDigit n.val).toNat < 128 := by decide
  unfold Char.toLower at h
  split at h
  · rename_i hupper
    exact toNat_lt_of_upper hupper
  · rw [h]
    exact hsmall ⟨n, hn⟩

set_option maxRecDepth 2000 in
/-- A character that stands for a number, in either case, is one octet with that value. -/
theorem digitValue?_of_toLower {c : Char} {n : Nat} (hn : n < 16) (h : c.toLower = Text.hexDigit n) :
    ∃ octet, String.utf8EncodeChar c = [octet] ∧ digitValue? octet = some n := by
  have key : ∀ c : Fin 128, ∀ n : Fin 16, (Char.ofNat c.val).toLower = Text.hexDigit n.val →
      String.utf8EncodeChar (Char.ofNat c.val) = [UInt8.ofNat c.val] ∧
      digitValue? (UInt8.ofNat c.val) = some n.val := by decide
  have hkey := key ⟨c.toNat, toNat_lt_of_toLower hn h⟩ ⟨n, hn⟩
  simp only [Char.ofNat_toNat] at hkey
  exact ⟨_, hkey h⟩

/-- The value of a character as a digit is the number that it stands for, in either case. -/
theorem hexValue?_eq_some_iff {c : Char} {n : Nat} :
    Text.hexValue? c = some n ↔ n < 16 ∧ c.toLower = Text.hexDigit n := by
  have key : ∀ c : Fin 128, ∀ n : Fin 16,
      Text.hexValue? (Char.ofNat c.val) = some n.val ↔ (Char.ofNat c.val).toLower = Text.hexDigit n.val := by decide
  have hascii : ∀ (hn : n < 16) (_ : c.toNat < 128), Text.hexValue? c = some n ↔ c.toLower = Text.hexDigit n := by
    intro hn hc
    have hkey := key ⟨c.toNat, hc⟩ ⟨n, hn⟩
    rwa [Char.ofNat_toNat] at hkey
  constructor
  · intro h
    obtain ⟨hc, hn⟩ := Text.lt_of_hexValue? h
    exact ⟨hn, (hascii hn hc).mp h⟩
  · rintro ⟨hn, h⟩
    exact (hascii hn (toNat_lt_of_toLower hn h)).mpr h

set_option maxRecDepth 2000 in
/-- An octet with a value is a character that stands for that number, in either case. -/
theorem toLower_of_digitValue? {octet : UInt8} {n : Nat} (h : digitValue? octet = some n) :
    n < 16 ∧ ∃ c, String.utf8EncodeChar c = [octet] ∧ c.toLower = Text.hexDigit n := by
  have key : ∀ o : Fin 256, ∀ n ∈ digitValue? (UInt8.ofNat o.val), n < 16 ∧
      String.utf8EncodeChar (Char.ofNat o.val) = [UInt8.ofNat o.val] ∧
      (Char.ofNat o.val).toLower = Text.hexDigit n := by decide
  have hkey := key ⟨octet.toNat, octet.toNat_lt⟩ n
  simp only [UInt8.ofNat_toNat] at hkey
  obtain ⟨hn, hc, hlower⟩ := hkey h
  exact ⟨hn, _, hc, hlower⟩

/-- A digit is read exactly from an octet that is one. -/
theorem digitAt_eq_ok {octet : UInt8} {position n : Nat} :
    digitAt octet position = .ok n ↔ digitValue? octet = some n := by
  unfold digitAt
  cases digitValue? octet with
  | none => exact ⟨nofun, nofun⟩
  | some value => exact ⟨fun h => congrArg some (Except.ok.inj h), fun h => congrArg Except.ok (Option.some.inj h)⟩

/-- Two digits more spell one octet more. -/
theorem spells_cons_iff {cs : List Char} {octet : UInt8} {b : Bytes} :
    Spells cs (octet :: b) ↔ ∃ high low rest, cs = high :: low :: rest ∧
    high.toLower = Text.hexDigit (octet.toNat / 16) ∧ low.toLower = Text.hexDigit (octet.toNat % 16) ∧
    Spells rest b := by
  unfold Spells
  rw [encodeChars, List.flatMap_cons, pair, List.cons_append, List.cons_append, List.nil_append]
  constructor
  · intro h
    obtain ⟨high, cs, rfl, hhigh, h⟩ := List.map_eq_cons_iff.mp h
    obtain ⟨low, rest, rfl, hlow, hrest⟩ := List.map_eq_cons_iff.mp h
    exact ⟨high, low, rest, rfl, hhigh, hlow, hrest⟩
  · rintro ⟨high, low, rest, rfl, hhigh, hlow, hrest⟩
    rw [List.map_cons, List.map_cons, hhigh, hlow, hrest, encodeChars]

/-- Characters that spell octets are read as them, two for each. -/
theorem decodePairs_of_spells {cs : List Char} {b : Bytes} (h : Spells cs b) (position : Nat) :
    (cs.flatMap String.utf8EncodeChar).length = 2 * b.length ∧
    decodePairs position (cs.flatMap String.utf8EncodeChar) = .ok b := by
  induction b generalizing cs position with
  | nil =>
    obtain rfl := List.map_eq_nil_iff.mp h
    exact ⟨rfl, rfl⟩
  | cons octet b ih =>
    obtain ⟨high, low, rest, rfl, hhigh, hlow, hrest⟩ := spells_cons_iff.mp h
    have hlt : octet.toNat < 256 := octet.toNat_lt
    obtain ⟨first, hfirst, hfirstValue⟩ := digitValue?_of_toLower (by omega) hhigh
    obtain ⟨second, hsecond, hsecondValue⟩ := digitValue?_of_toLower (by omega) hlow
    obtain ⟨hlength, hread⟩ := ih hrest (position + 2)
    have hvalue : UInt8.ofNat (octet.toNat / 16 * 16 + octet.toNat % 16) = octet := by
      rw [Nat.div_add_mod', UInt8.ofNat_toNat]
    rw [List.flatMap_cons, List.flatMap_cons, hfirst, hsecond, List.singleton_append, List.singleton_append,
      List.length_cons, List.length_cons, hlength, List.length_cons]
    refine ⟨by omega, Result.bind_eq_ok.mpr
      ⟨_, digitAt_eq_ok.mpr hfirstValue, Result.bind_eq_ok.mpr ⟨_, digitAt_eq_ok.mpr hsecondValue,
      Result.bind_eq_ok.mpr ⟨b, hread, ?_⟩⟩⟩⟩
    rw [hvalue]

/-- What is read as octets are characters that spell them. -/
theorem spells_of_decodePairs {position : Nat} {octets b : Bytes} (h : decodePairs position octets = .ok b) :
    ∃ cs : List Char, octets = cs.flatMap String.utf8EncodeChar ∧ Spells cs b := by
  fun_induction decodePairs position octets generalizing b with
  | case1 position first second rest ih =>
    obtain ⟨m, hm, h⟩ := Result.bind_eq_ok.mp h
    obtain ⟨n, hn, h⟩ := Result.bind_eq_ok.mp h
    obtain ⟨b', hb, h⟩ := Result.bind_eq_ok.mp h
    obtain rfl := Except.ok.inj h
    obtain ⟨hm, high, hhigh, hhighLower⟩ := toLower_of_digitValue? (digitAt_eq_ok.mp hm)
    obtain ⟨hn, low, hlow, hlowLower⟩ := toLower_of_digitValue? (digitAt_eq_ok.mp hn)
    obtain ⟨cs, rfl, hcs⟩ := ih hb
    have hvalue : (UInt8.ofNat (m * 16 + n)).toNat = m * 16 + n := Bytes.toNat_octet (by omega)
    have hdiv : (m * 16 + n) / 16 = m := by omega
    have hmod : (m * 16 + n) % 16 = n := by omega
    refine ⟨high :: low :: cs, ?_, spells_cons_iff.mpr ⟨high, low, cs, rfl, ?_, ?_, hcs⟩⟩
    · rw [List.flatMap_cons, List.flatMap_cons, hhigh, hlow]
      rfl
    · rw [hvalue, hdiv, hhighLower]
    · rw [hvalue, hmod, hlowLower]
  | case2 => nomatch h
  | case3 =>
    obtain rfl := Except.ok.inj h
    exact ⟨[], rfl, rfl⟩

/-- Characters are read as octets exactly if they are their digits. -/
theorem decodeChars_eq_ok_iff {cs : List Char} {b : Bytes} : decodeChars cs = .ok b ↔ Spells cs b := by
  unfold decodeChars decodeOctets
  constructor
  · intro h
    split at h
    · nomatch h
    · obtain ⟨cs', hcs, hspells⟩ := spells_of_decodePairs h
      rwa [Utf8.flatMap_encodeChar_injective hcs]
  · intro h
    obtain ⟨hlength, hread⟩ := decodePairs_of_spells h 0
    rw [if_neg (by omega), hread]

/-- Characters are the digits of one byte string at most. -/
theorem Spells.unique {cs : List Char} {b b' : Bytes} (h : Spells cs b) (h' : Spells cs b') : b = b' :=
  Except.ok.inj ((decodeChars_eq_ok_iff.mpr h).symm.trans (decodeChars_eq_ok_iff.mpr h'))

/-- Different octets have different digits. -/
theorem encodeChars_injective : Function.Injective encodeChars :=
  fun b b' h => (spells_encodeChars b).unique (h ▸ spells_encodeChars b')

/-- Octets are spelled by twice as many characters. -/
theorem Spells.length_eq {cs : List Char} {b : Bytes} (h : Spells cs b) : cs.length = 2 * b.length := by
  have hlength := congrArg List.length h
  rw [List.length_map] at hlength
  rw [hlength, encodeChars, List.length_flatMap]
  simp [pair, List.map_const', Nat.mul_comm]

/-- The digits of two byte strings are those of one, and then those of the other. -/
theorem spells_append_iff {cs : List Char} {b b' : Bytes} :
    Spells cs (b ++ b') ↔ ∃ front back, cs = front ++ back ∧ Spells front b ∧ Spells back b' := by
  unfold Spells encodeChars
  rw [List.flatMap_append]
  exact List.map_eq_append_iff

/-! ## The number that digits write -/

/-- Octets are spelled by hexadecimal digits. -/
theorem Spells.isHexDigit {cs : List Char} {b : Bytes} (h : Spells cs b) : ∀ c ∈ cs, Text.isHexDigit c = true := by
  intro c hc
  obtain ⟨n, hdigit⟩ := h.digit hc
  exact Option.isSome_iff_exists.mpr ⟨n, hexValue?_eq_some_iff.mpr hdigit⟩

/-- The digits of a byte string write its number. -/
theorem Spells.numberOf {cs : List Char} {b : Bytes} (h : Spells cs b) : Text.numberOf 16 cs = Bytes.toNat b := by
  induction b generalizing cs with
  | nil =>
    obtain rfl := List.map_eq_nil_iff.mp h
    rfl
  | cons octet b ih =>
    obtain ⟨high, low, rest, rfl, hhigh, hlow, hrest⟩ := spells_cons_iff.mp h
    have hlt : octet.toNat < 256 := octet.toNat_lt
    have hpair : Text.numberOf 16 [high, low] = octet.toNat := by
      have hhighValue := hexValue?_eq_some_iff.mpr ⟨by omega, hhigh⟩
      have hlowValue := hexValue?_eq_some_iff.mpr ⟨by omega, hlow⟩
      simp only [Text.numberOf, List.foldl_cons, List.foldl_nil, hhighValue, hlowValue, Option.getD_some]
      omega
    have hplace : 16 ^ rest.length = Bytes.count b.length := by
      rw [hrest.length_eq, Nat.pow_mul, Bytes.count_eq]
      rfl
    have hsplit : high :: low :: rest = [high, low] ++ rest := rfl
    rw [hsplit, Text.numberOf_append, hpair, hplace, ih hrest, Bytes.toNat_cons]

/-- An even number of digits are those of some byte string. -/
theorem exists_spells {n : Nat} {cs : List Char} (hlength : cs.length = 2 * n)
    (hdigits : ∀ c ∈ cs, Text.isHexDigit c = true) :
    ∃ b, Spells cs b := by
  induction n generalizing cs with
  | zero =>
    obtain rfl := List.length_eq_zero_iff.mp hlength
    exact ⟨[], rfl⟩
  | succ n ih =>
    match cs, hlength with
    | high :: low :: rest, hlength =>
      have hrest : rest.length = 2 * n := by
        simp only [List.length_cons] at hlength
        omega
      obtain ⟨b, hb⟩ := ih hrest fun c hc => hdigits c (List.mem_cons_of_mem _ (List.mem_cons_of_mem _ hc))
      obtain ⟨m, hm⟩ := Option.isSome_iff_exists.mp (hdigits high List.mem_cons_self)
      obtain ⟨k, hk⟩ := Option.isSome_iff_exists.mp (hdigits low (List.mem_cons_of_mem _ List.mem_cons_self))
      obtain ⟨hm, hhigh⟩ := hexValue?_eq_some_iff.mp hm
      obtain ⟨hk, hlow⟩ := hexValue?_eq_some_iff.mp hk
      have hvalue : (UInt8.ofNat (m * 16 + k)).toNat = m * 16 + k := Bytes.toNat_octet (by omega)
      have hdiv : (m * 16 + k) / 16 = m := by omega
      have hmod : (m * 16 + k) % 16 = k := by omega
      refine ⟨UInt8.ofNat (m * 16 + k) :: b, spells_cons_iff.mpr ⟨high, low, rest, rfl, ?_, ?_, hb⟩⟩
      · rw [hvalue, hdiv, hhigh]
      · rw [hvalue, hmod, hlow]

/-- Characters are the digits of a byte string exactly if they are digits, two for each octet, and write its number. -/
theorem spells_iff_numberOf {cs : List Char} {b : Bytes} : Spells cs b ↔
    cs.length = 2 * b.length ∧ (∀ c ∈ cs, Text.isHexDigit c = true) ∧ Text.numberOf 16 cs = Bytes.toNat b := by
  constructor
  · exact fun h => ⟨h.length_eq, h.isHexDigit, h.numberOf⟩
  · rintro ⟨hlength, hdigits, hnumber⟩
    obtain ⟨b', hb'⟩ := exists_spells hlength hdigits
    have hb : b'.length = b.length := by
      have hlength' := hb'.length_eq
      omega
    rwa [Bytes.toNat_injective hb (hb'.numberOf.symm.trans hnumber)] at hb'

end CheckpointRelay.Hex
