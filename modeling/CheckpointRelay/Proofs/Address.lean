import CheckpointRelay.Failure
import CheckpointRelay.Proofs.Text.Base58
import CheckpointRelay.Proofs.Text.Blank
import CheckpointRelay.Proofs.Text.Hex
import CheckpointRelay.Address

/-!
# The written forms of an address

`Form a text` lists the forms in which an address is written: Base58 in one way only, and hexadecimal digits in either
case, with or without a marker, of all octets or of the account alone. A text is read as an address exactly if it is one
of its forms with nothing but blanks around it, and every other text is refused (`parse_exact`). The first character
decides between Base58 and hexadecimal: the Base58 form of every address starts with `T` (`head_base58`), and no
hexadecimal one does.
-/

namespace CheckpointRelay.Address

/-- The characters are the digits, behind one marker `0x` or `0X` at most. -/
def Marked (cs digits : List Char) : Prop :=
  cs = digits ∨ cs = '0' :: 'x' :: digits ∨ cs = '0' :: 'X' :: digits

/-- The text writes the address in hexadecimal: all of its octets, or those of the account alone. -/
def HexForm (a : Address) (text : String) : Prop :=
  ∃ digits, Marked text.toList digits ∧ (Hex.Spells digits a.bytes ∨ Hex.Spells digits a.account.bytes)

/-- The text writes the address. -/
def Form (a : Address) (text : String) : Prop :=
  text = a.base58 ∨ HexForm a text

/-! ## Octets -/

/-- The octets taken as an address are exactly the address's own. -/
theorem ofBytes_eq_ok_iff {b : Bytes} {a : Address} : ofBytes b = .ok a ↔ b = a.bytes := by
  constructor
  · intro h
    cases b with
    | nil => nomatch h
    | cons first rest =>
      unfold ofBytes Octets.ofBytes? at h
      by_cases hlength : rest.length = 20
      · simp only [hlength, dif_pos] at h
        split at h
        · rename_i hmarker
          obtain rfl := Except.ok.inj h
          rw [hmarker]
          rfl
        · cases h
      · simp only [hlength, dif_neg, not_false_eq_true] at h
        cases h
  · rintro rfl
    exact ofBytes_bytes a

/-- The octets taken as an account are exactly the address's account. -/
theorem ofAccount_eq_ok_iff {b : Bytes} {a : Address} : ofAccount b = .ok a ↔ b = a.account.bytes := by
  constructor
  · intro h
    unfold ofAccount Octets.ofBytes? at h
    by_cases hlength : b.length = 20
    · simp only [hlength, dif_pos] at h
      obtain rfl := Except.ok.inj h
      rfl
    · simp only [hlength, dif_neg, not_false_eq_true] at h
      cases h
  · rintro rfl
    exact ofAccount_account a

/-! ## Base58 -/

/-- The one base58 text of an address is the text it is printed as. -/
theorem ofBase58_eq_ok_iff {text : String} {a : Address} : ofBase58 text = .ok a ↔ text = a.base58 := by
  unfold ofBase58 base58
  constructor
  · intro h
    split at h
    · rename_i payload hpayload
      rw [Base58.decodeCheck_eq_ok_iff.mp hpayload, ofBytes_eq_ok_iff.mp h]
    · nomatch h
  · intro h
    rw [Base58.decodeCheck_eq_ok_iff.mpr h]
    exact ofBytes_bytes a

/-- The octets of an address with their checksum, as a number, lie in the range of the digit `T` at the thirty-fourth
place. -/
theorem head_base58 (a : Address) : ∃ rest, a.base58.toList = 'T' :: rest := by
  have hlength : (a.account.bytes ++ Base58.checksum a.bytes).length = 24 := by
    rw [List.length_append, a.account.length_eq, Base58.length_checksum]
  have hnumber := Bytes.toNat_append [marker] (a.account.bytes ++ Base58.checksum a.bytes)
  have hbound := Bytes.toNat_lt (a.account.bytes ++ Base58.checksum a.bytes)
  rw [hlength] at hnumber hbound
  have hfirst : Bytes.toNat [marker] = 65 := rfl
  have hcount : Bytes.count 24 = 256 ^ 24 := by decide
  rw [hfirst, hcount] at hnumber
  rw [hcount] at hbound
  have hmarker : a.bytes ++ Base58.checksum a.bytes = [marker] ++ (a.account.bytes ++ Base58.checksum a.bytes) := rfl
  obtain ⟨rest, hrest⟩ :=
    Base58.digits_eq_cons (q := 26) (k := 33) (n := Bytes.toNat (a.bytes ++ Base58.checksum a.bytes))
    (by decide) (by decide) (by rw [hmarker, hnumber]; omega) (by rw [hmarker, hnumber]; omega)
  refine ⟨rest, ?_⟩
  rw [base58, Base58.encodeCheck, String.toList_ofList, Base58.encodeChars, hrest]
  rfl

/-! ## Hexadecimal digits -/

/-- What `dropHexMarker` leaves is the text with at most one marker taken off its front. -/
theorem marked_dropHexMarker (cs : List Char) : Marked cs (Text.dropHexMarker cs) := by
  fun_cases Text.dropHexMarker cs with
  | case1 rest => exact Or.inr (Or.inl rfl)
  | case2 rest => exact Or.inr (Or.inr rfl)
  | case3 => exact Or.inl rfl

/-- The marker is found: no digits start with one. -/
theorem dropHexMarker_of_marked {cs digits : List Char} {b : Bytes} (h : Marked cs digits)
    (hdigits : Hex.Spells digits b) :
    Text.dropHexMarker cs = digits := by
  have hmark : ∀ n : Fin 16, 'x'.toLower ≠ Text.hexDigit n.val ∧ 'X'.toLower ≠ Text.hexDigit n.val := by decide
  rcases h with rfl | rfl | rfl
  · fun_cases Text.dropHexMarker cs with
    | case1 rest =>
      obtain ⟨n, hn, hx⟩ := hdigits.digit (List.mem_cons_of_mem _ List.mem_cons_self)
      exact absurd hx (hmark ⟨n, hn⟩).1
    | case2 rest =>
      obtain ⟨n, hn, hx⟩ := hdigits.digit (List.mem_cons_of_mem _ List.mem_cons_self)
      exact absurd hx (hmark ⟨n, hn⟩).2
    | case3 => rfl
  · rfl
  · rfl

/-- The hexadecimal texts of an address are exactly its forms: with or without a marker, of 20 or of 21 octets. -/
theorem ofHex_eq_ok_iff {text : String} {a : Address} : ofHex text = .ok a ↔ HexForm a text := by
  -- twenty bytes can only be an account, and any other length only an address with its prefix
  have hread : ∀ b : Bytes, (if b.length = 20 then ofAccount b else ofBytes b) = .ok a ↔
      b = a.bytes ∨ b = a.account.bytes := by
    intro b
    split
    · rename_i hlength
      rw [ofAccount_eq_ok_iff]
      refine (or_iff_right fun hb => ?_).symm
      rw [hb, length_bytes] at hlength
      nomatch hlength
    · rename_i hlength
      rw [ofBytes_eq_ok_iff]
      exact (or_iff_left fun hb : b = a.account.bytes => hlength (hb ▸ a.account.length_eq)).symm
  unfold ofHex HexForm
  constructor
  · intro h
    split at h
    · nomatch h
    · rename_i b hb
      have hspells := Hex.decodeChars_eq_ok_iff.mp hb
      refine ⟨_, marked_dropHexMarker _, ?_⟩
      rcases (hread b).mp h with rfl | rfl
      · exact Or.inl hspells
      · exact Or.inr hspells
  · rintro ⟨digits, hmarked, hspells | hspells⟩
    · rw [dropHexMarker_of_marked hmarked hspells, Hex.decodeChars_eq_ok_iff.mpr hspells]
      exact (hread _).mpr (Or.inl rfl)
    · rw [dropHexMarker_of_marked hmarked hspells, Hex.decodeChars_eq_ok_iff.mpr hspells]
      exact (hread _).mpr (Or.inr rfl)

/-- No hexadecimal form starts with `T`. -/
theorem HexForm.head_ne {a : Address} {text : String} (h : HexForm a text) : text.toList.head? ≠ some 'T' := by
  have hnot : ∀ n : Fin 16, 'T'.toLower ≠ Text.hexDigit n.val := by decide
  obtain ⟨digits, rfl | hmarked | hmarked, hspells⟩ := h
  · intro hhead
    have hmem := List.mem_of_head? hhead
    rcases hspells with hspells | hspells
    all_goals
      obtain ⟨n, hn, ht⟩ := hspells.digit hmem
      exact hnot ⟨n, hn⟩ ht
  · rw [hmarked]
    nofun
  · rw [hmarked]
    nofun

/-- A hexadecimal digit is no blank. -/
theorem notBlank_hexDigit {n : Nat} (hn : n < 16) : Text.isBlank (Text.hexDigit n) = false := by
  have hall : ∀ n : Fin 16, Text.isBlank (Text.hexDigit n.val) = false := by decide
  exact hall ⟨n, hn⟩

/-- No character of a text of hexadecimal digits is blank. -/
theorem notBlank_hex (b : Bytes) : ∀ c ∈ Hex.encodeChars b, Text.isBlank c = false := by
  intro c hc
  obtain ⟨octet, -, hpair⟩ := List.mem_flatMap.mp hc
  have hlt : octet.toNat < 256 := octet.toNat_lt
  rw [Hex.pair, List.mem_cons, List.mem_singleton] at hpair
  rcases hpair with rfl | rfl
  · exact notBlank_hexDigit (by omega)
  · exact notBlank_hexDigit (by omega)

set_option maxRecDepth 2000 in
/-- No character of a base58 text is blank. -/
theorem notBlank_base58 (b : Bytes) : ∀ c ∈ Base58.encodeChars b, Text.isBlank c = false := by
  have hall : ∀ n : Fin 58, Text.isBlank (Base58.digit n.val) = false := by decide
  intro c hc
  rw [Base58.encodeChars_eq] at hc
  obtain ⟨d, hd, rfl⟩ := List.mem_map.mp hc
  exact hall ⟨d, Base58.numeral_lt (by decide) _ _ d hd⟩

/-! ## Texts -/

/-- A text without blanks is not trimmed. -/
theorem trim_of_notBlank {text : String} (h : ∀ c ∈ text.toList, Text.isBlank c = false) : Text.trim text = text := by
  have htrim : Text.trimChars ([] ++ text.toList ++ []) = text.toList := Text.trimChars_append nofun h nofun
  rw [List.nil_append, List.append_nil] at htrim
  rw [Text.trim, htrim, String.ofList_toList]

/-- A text is read as an address exactly when, trimmed, it is one of the address's forms. -/
theorem parse_eq_ok_iff {text : String} {a : Address} : parse text = .ok a ↔ Form a (Text.trim text) := by
  unfold parse Form
  dsimp only
  generalize Text.trim text = trimmed
  by_cases hhead : trimmed.toList.head? = some 'T'
  · rw [if_pos hhead, ofBase58_eq_ok_iff]
    exact (or_iff_left fun hhex => hhex.head_ne hhead).symm
  · rw [if_neg hhead, ofHex_eq_ok_iff]
    refine (or_iff_right fun hbase58 => hhead ?_).symm
    obtain ⟨rest, hrest⟩ := head_base58 a
    rw [hbase58, hrest]
    rfl

/-- A form without blanks is read as it stands. -/
theorem parse_of_form {text : String} {a : Address} (h : Form a text)
    (hblank : ∀ c ∈ text.toList, Text.isBlank c = false) :
    parse text = .ok a := by
  rw [parse_eq_ok_iff, trim_of_notBlank hblank]
  exact h

/-- An address is printed as the base58 digits of its octets and their checksum. -/
theorem toList_toString (a : Address) : (toString a).toList = Base58.encodeChars (a.bytes ++ Base58.checksum a.bytes) :=
  String.toList_ofList

/-- An address in hexadecimal is the digits of its octets, without a marker. -/
theorem toList_hex (a : Address) : a.hex.toList = Hex.encodeChars a.bytes :=
  String.toList_ofList

/-- The hexadecimal text of an address is one of its hexadecimal forms. -/
theorem hexForm_hex (a : Address) : HexForm a a.hex :=
  ⟨_, Or.inl (toList_hex a), Or.inl (Hex.spells_encodeChars _)⟩

/-- An account in hexadecimal is the marker and the digits of its twenty octets. -/
theorem toList_accountHex (a : Address) : a.accountHex.toList = '0' :: 'x' :: Hex.encodeChars a.account.bytes := by
  rw [accountHex, String.toList_append, Hex.encode, String.toList_ofList, String.toList_ofList]
  rfl

/-- The hexadecimal text of the account is one of the address's hexadecimal forms. -/
theorem hexForm_accountHex (a : Address) : HexForm a a.accountHex :=
  ⟨_, Or.inr (Or.inl (toList_accountHex a)), Or.inr (Hex.spells_encodeChars _)⟩

/-- Every way in which an address is written reads back, and what is written in fixed form reads back in no other
way. -/
structure ReadsBack (a : Address) : Prop where
  bytes : ∀ b, ofBytes b = .ok a ↔ b = a.bytes
  account : ∀ b, ofAccount b = .ok a ↔ b = a.account.bytes
  base58 : ∀ text, ofBase58 text = .ok a ↔ text = a.base58
  hex : ofHex a.hex = .ok a
  accountHex : ofHex a.accountHex = .ok a
  parse_toString : parse (toString a) = .ok a
  parse_hex : parse a.hex = .ok a
  parse_accountHex : parse a.accountHex = .ok a
  /-- What the choice between Base58 and hexadecimal rests on. -/
  head_base58 : a.base58.toList.head? = some 'T'

/-- Every text an address is printed as is read back as the address. -/
theorem readsBack (a : Address) : ReadsBack a where
  bytes _ := ofBytes_eq_ok_iff
  account _ := ofAccount_eq_ok_iff
  base58 _ := ofBase58_eq_ok_iff
  hex := ofHex_eq_ok_iff.mpr (hexForm_hex a)
  accountHex := ofHex_eq_ok_iff.mpr (hexForm_accountHex a)
  parse_toString := by
    refine parse_of_form (Or.inl rfl) ?_
    rw [toList_toString]
    exact notBlank_base58 _
  parse_hex := by
    refine parse_of_form (Or.inr (hexForm_hex a)) ?_
    rw [toList_hex]
    exact notBlank_hex _
  parse_accountHex := by
    refine parse_of_form (Or.inr (hexForm_accountHex a)) fun c hc => ?_
    rw [toList_accountHex] at hc
    rcases List.mem_cons.mp hc with rfl | hc
    · decide
    rcases List.mem_cons.mp hc with rfl | hc
    · decide
    · exact notBlank_hex _ c hc
  head_base58 := by
    obtain ⟨rest, hrest⟩ := Address.head_base58 a
    rw [hrest]
    rfl

/-- A text is read as an address exactly if, without the blanks around it, it is a form of that address. A text that is
a form of none is refused as no address, and every address has the forms that it is written in. -/
theorem parse_exact :
    (∀ text a, parse text = .ok a ↔ Form a (Text.trim text)) ∧
    (∀ text, (∀ a, ¬Form a (Text.trim text)) ↔
      ∃ reason, (parse text).mapError (fun e => Failure.invalidAddress e.message) = .error (.invalidAddress reason)) ∧
    ∀ a, ReadsBack a := by
  refine ⟨fun text a => parse_eq_ok_iff, fun text => ?_, readsBack⟩
  simp only [← parse_eq_ok_iff]
  cases parse text with
  | ok a => exact ⟨fun h => absurd rfl (h a), nofun⟩
  | error e => exact ⟨fun _ => ⟨e.message, rfl⟩, fun _ => nofun⟩

end CheckpointRelay.Address
