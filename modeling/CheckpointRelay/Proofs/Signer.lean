import CheckpointRelay.Failure
import CheckpointRelay.Proofs.Address
import CheckpointRelay.Signer

/-!
# Exactly which texts are private keys

`PrivateKey.Writes text d` says that a text writes a number as a key: in sixty-four hexadecimal digits of either case,
behind a marker or none, with nothing but blanks around. A signer is made of the texts that write a scalar of the curve,
and it is the signer of that scalar; all other texts are refused (`Signer.keys_exact`). The address of a signer is that
of its public key.
-/

namespace CheckpointRelay

/-- The text writes the number as a key: sixty-four hexadecimal digits in either case, behind one marker `0x` or `0X` at
most, with nothing but blanks around. -/
def PrivateKey.Writes (text : String) (d : Nat) : Prop :=
  ∃ front core back digits, text.toList = front ++ core ++ back ∧
    (∀ c ∈ front, Text.isBlank c = true) ∧ (∀ c ∈ back, Text.isBlank c = true) ∧ Address.Marked core digits ∧
    digits.length = 64 ∧ (∀ c ∈ digits, Text.isHexDigit c = true) ∧ Text.numberOf 16 digits = d

namespace PrivateKey

variable {text : String} {d : Nat} {w : Word}

/-- A marked text of hexadecimal digits has no blank. -/
theorem notBlank_of_marked {core digits : List Char} (h : Address.Marked core digits)
    (hdigits : ∀ c ∈ digits, Text.isHexDigit c = true) : ∀ c ∈ core, Text.isBlank c = false := by
  have hnot : ∀ c ∈ digits, Text.isBlank c = false := fun c hc => Text.isBlank_of_isHexDigit (hdigits c hc)
  have hzero : Text.isBlank '0' = false := by decide
  have hlower : Text.isBlank 'x' = false := by decide
  have hupper : Text.isBlank 'X' = false := by decide
  rcases h with rfl | rfl | rfl
  · exact hnot
  · exact List.forall_mem_cons.mpr ⟨hzero, List.forall_mem_cons.mpr ⟨hlower, hnot⟩⟩
  · exact List.forall_mem_cons.mpr ⟨hzero, List.forall_mem_cons.mpr ⟨hupper, hnot⟩⟩

/-- What a text writes, it writes without the blanks around it. -/
theorem writes_iff_trimChars : Writes text d ↔ ∃ digits, Address.Marked (Text.trimChars text.toList) digits ∧
    digits.length = 64 ∧ (∀ c ∈ digits, Text.isHexDigit c = true) ∧ Text.numberOf 16 digits = d := by
  constructor
  · rintro ⟨front, core, back, digits, htext, hfront, hback, hmarked, hlength, hdigits, hnumber⟩
    refine ⟨digits, ?_, hlength, hdigits, hnumber⟩
    rwa [htext, Text.trimChars_append hfront (notBlank_of_marked hmarked hdigits) hback]
  · rintro ⟨digits, hmarked, hlength, hdigits, hnumber⟩
    obtain ⟨front, back, htext, hfront, hback⟩ := Text.exists_blanks text.toList
    exact ⟨front, _, back, digits, htext, hfront, hback, hmarked, hlength, hdigits, hnumber⟩

/-- A text is read as a key's word exactly when, trimmed and without its marker, it spells the word's octets. -/
theorem parse_eq_ok_iff_spells :
    parse text = .ok w ↔ Hex.Spells (Text.dropHexMarker (Text.trimChars text.toList)) w.bytes := by
  rw [← Hex.decodeChars_eq_ok_iff]
  unfold parse
  cases Hex.decodeChars (Text.dropHexMarker (Text.trimChars text.toList)) with
  | error cause => exact ⟨nofun, nofun⟩
  | ok b =>
    have hoctets : Octets.ofBytes? 32 b = some w ↔ b = w.bytes := by
      unfold Octets.ofBytes?
      by_cases hlength : b.length = 32
      · rw [dif_pos hlength, Option.some.injEq, Octets.ext_iff]
      · rw [dif_neg hlength]
        exact ⟨nofun, fun h => absurd (h ▸ w.length_eq) hlength⟩
    rw [Except.ok.injEq, ← hoctets]
    dsimp only
    cases Octets.ofBytes? 32 b with
    | none => exact ⟨nofun, nofun⟩
    | some w' => exact ⟨fun h => congrArg some (Except.ok.inj h), fun h => congrArg Except.ok (Option.some.inj h)⟩

/-- The octets read from a text are those of the number that it writes. -/
theorem parse_eq_ok_iff : parse text = .ok w ↔ Writes text w.toNat := by
  have hlength : 2 * w.bytes.length = 64 := by rw [w.length_eq]
  rw [parse_eq_ok_iff_spells, writes_iff_trimChars]
  constructor
  · intro h
    obtain ⟨hdigits, hhex, hnumber⟩ := Hex.spells_iff_numberOf.mp h
    exact ⟨_, Address.marked_dropHexMarker _, hdigits.trans hlength, hhex, hnumber⟩
  · rintro ⟨digits, hmarked, hdigits, hhex, hnumber⟩
    have hspells : Hex.Spells digits w.bytes := Hex.spells_iff_numberOf.mpr ⟨hdigits.trans hlength.symm, hhex, hnumber⟩
    rwa [Address.dropHexMarker_of_marked hmarked hspells]

/-- A number that is written as a key fits a word. -/
theorem Writes.lt (h : Writes text d) : d < Word.count := by
  obtain ⟨_, _, _, digits, -, -, -, -, hlength, hhex, rfl⟩ := h
  obtain ⟨b, hb⟩ := Hex.exists_spells (n := 32) hlength hhex
  have hoctets : b.length = 32 := by
    have hdigits := hb.length_eq
    omega
  rw [hb.numberOf, ← Word.count_eq, ← hoctets]
  exact Bytes.toNat_lt b

/-- A text that writes a number is read as its octets. -/
theorem Writes.parse (h : Writes text d) : parse text = .ok (Octets.ofNat 32 d) := by
  rw [parse_eq_ok_iff, Octets.toNat_ofNat (Word.count_eq ▸ h.lt)]
  exact h

/-- A text writes one number at most. -/
theorem Writes.unique {d' : Nat} (h : Writes text d) (h' : Writes text d') : d = d' := by
  have hoctets := congrArg Octets.toNat (Except.ok.inj (h.parse.symm.trans h'.parse))
  rwa [Octets.toNat_ofNat (Word.count_eq ▸ h.lt), Octets.toNat_ofNat (Word.count_eq ▸ h'.lt)] at hoctets

end PrivateKey

namespace Signer

variable {text : String} {s : Signer} {d : Nat}

/-- A word is taken as a secret exactly when the secret has its number. -/
theorem ofWord_eq_ok_iff {w : Word} : ofWord w = .ok s ↔ s.secret.val = w.toNat := by
  unfold ofWord Ecdsa.SecretKey.ofWord?
  obtain ⟨⟨val, hpos, hlt⟩⟩ := s
  by_cases h : 0 < w.toNat ∧ w.toNat < Secp256k1.groupOrder
  · rw [dif_pos h]
    simp only [Except.ok.injEq, Signer.mk.injEq, Ecdsa.SecretKey.mk.injEq]
    exact eq_comm
  · rw [dif_neg h]
    exact ⟨nofun, fun hval => absurd ⟨hval ▸ hpos, hval ▸ hlt⟩ h⟩

/-- A signer is made of the texts that write its scalar. -/
theorem ofHex_eq_ok_iff : ofHex text = .ok s ↔ PrivateKey.Writes text s.secret.val := by
  rw [ofHex, Result.bind_eq_ok]
  constructor
  · rintro ⟨w, hw, hs⟩
    rw [ofWord_eq_ok_iff.mp hs]
    exact PrivateKey.parse_eq_ok_iff.mp hw
  · intro h
    exact ⟨_, h.parse, ofWord_eq_ok_iff.mpr (Octets.toNat_ofNat (Word.count_eq ▸ h.lt)).symm⟩

/-- A text gives a signer exactly when it writes a scalar of the curve. -/
theorem exists_ofHex_eq_ok_iff :
    (∃ s, ofHex text = .ok s) ↔ ∃ d, 1 ≤ d ∧ d < Secp256k1.groupOrder ∧ PrivateKey.Writes text d := by
  constructor
  · rintro ⟨s, hs⟩
    exact ⟨s.secret.val, s.secret.pos, s.secret.lt, ofHex_eq_ok_iff.mp hs⟩
  · rintro ⟨d, hpos, hlt, h⟩
    exact ⟨⟨⟨d, hpos, hlt⟩⟩, ofHex_eq_ok_iff.mpr h⟩

/-- Digits are refused for their number only if they are sixty-four and it is no scalar. -/
theorem ofHex_eq_notScalar_iff :
    ofHex text = .error .notScalar ↔ ∃ d, PrivateKey.Writes text d ∧ ¬(1 ≤ d ∧ d < Secp256k1.groupOrder) := by
  constructor
  · intro h
    unfold ofHex at h
    cases hw : PrivateKey.parse text with
    | ok w =>
      refine ⟨w.toNat, PrivateKey.parse_eq_ok_iff.mp hw, fun hscalar => ?_⟩
      have hs : ofWord w = .ok ⟨⟨w.toNat, hscalar.1, hscalar.2⟩⟩ := ofWord_eq_ok_iff.mpr rfl
      rw [hw, Result.ok_bind, hs] at h
      nomatch h
    | error e =>
      rw [hw] at h
      obtain rfl : e = .notScalar := Except.error.inj h
      -- the text itself never fails for this cause
      unfold PrivateKey.parse at hw
      split at hw
      · nomatch hw
      · split at hw
        · nomatch hw
        · nomatch hw
  · rintro ⟨d, h, hscalar⟩
    have hword : (Octets.ofNat 32 d).toNat = d := Octets.toNat_ofNat (Word.count_eq ▸ h.lt)
    have hnone : Ecdsa.SecretKey.ofWord? (Octets.ofNat 32 d) = none := by
      refine dif_neg ?_
      rwa [hword]
    rw [ofHex, h.parse, Result.ok_bind, ofWord, hnone]

/-- The public key of a signer has its address, with the octet in front and without it. -/
theorem ofPublicKey_publicKey (s : Signer) : s.publicKey.length = 65 ∧
    Address.ofPublicKey s.publicKey = .ok s.address ∧ Address.ofPublicKey (s.publicKey.drop 1) = .ok s.address := by
  have hlength : s.publicKey.length = 65 := by rw [publicKey, List.length_cons, s.coordinates.length_eq]
  have hdrop : s.publicKey.drop 1 = s.coordinates.bytes := rfl
  refine ⟨hlength, ?_, ?_⟩
  · unfold Address.ofPublicKey
    dsimp only
    rw [if_pos ⟨hlength, rfl⟩, hdrop, Octets.ofBytes?_bytes]
    rfl
  · have hshort : ¬(s.coordinates.bytes.length = 65 ∧ s.coordinates.bytes.head? = some 4) := by
      rw [s.coordinates.length_eq]
      exact fun h => absurd h.1 (by decide)
    unfold Address.ofPublicKey
    dsimp only
    rw [hdrop, if_neg hshort, Octets.ofBytes?_bytes]
    rfl

/-- A text makes a signer exactly if it writes a scalar of the curve as a key, and it makes the signer of that scalar.
Every other text is refused as no key, and sixty-four digits are refused for their number alone. Texts that write one
scalar make signers with one address that sign alike, and the address of a signer is that of its public key. -/
theorem keys_exact :
    (∀ text s, ofHex text = .ok s ↔ PrivateKey.Writes text s.secret.val) ∧
    (∀ text, (∃ s, ofHex text = .ok s) ↔ ∃ d, 1 ≤ d ∧ d < Secp256k1.groupOrder ∧ PrivateKey.Writes text d) ∧
    (∀ text, (¬∃ d, 1 ≤ d ∧ d < Secp256k1.groupOrder ∧ PrivateKey.Writes text d) ↔
      ∃ reason, (ofHex text).mapError (fun e => Failure.invalidKey e.message) = .error (.invalidKey reason)) ∧
    (∀ text, ofHex text = .error .notScalar ↔ ∃ d, PrivateKey.Writes text d ∧ ¬(1 ≤ d ∧ d < Secp256k1.groupOrder)) ∧
    (∀ text text' s s' d, ofHex text = .ok s → ofHex text' = .ok s' → PrivateKey.Writes text d →
      PrivateKey.Writes text' d →
      s.address = s'.address ∧ ∀ digest, s.sign? digest = s'.sign? digest) ∧
    ∀ s : Signer, s.publicKey.length = 65 ∧
      Address.ofPublicKey s.publicKey = .ok s.address ∧ Address.ofPublicKey (s.publicKey.drop 1) = .ok s.address := by
  refine ⟨fun text s => ofHex_eq_ok_iff, fun text => exists_ofHex_eq_ok_iff, fun text => ?_,
    fun text => ofHex_eq_notScalar_iff, ?_, ofPublicKey_publicKey⟩
  · rw [← exists_ofHex_eq_ok_iff]
    cases ofHex text with
    | ok s => exact ⟨fun h => absurd ⟨s, rfl⟩ h, nofun⟩
    | error e => exact ⟨fun _ => ⟨e.message, rfl⟩, fun _ => nofun⟩
  · intro text text' s s' d hs hs' hd hd'
    -- A signer is its scalar and nothing else.
    obtain rfl : s = s' := by
      have hval := (ofHex_eq_ok_iff.mp hs).unique hd
      have hval' := (ofHex_eq_ok_iff.mp hs').unique hd'
      obtain ⟨⟨val, hpos, hlt⟩⟩ := s
      obtain ⟨⟨val', hpos', hlt'⟩⟩ := s'
      obtain rfl : val = d := hval
      obtain rfl : val' = val := hval'
      rfl
    exact ⟨rfl, fun digest => rfl⟩

/-- The largest scalar, in digits of both cases between blanks. -/
theorem keys_exact_largest : ofHex "\u2003 0Xfffffffffffffffffffffffffffffffebaaedce6af48a03bBFD25E8CD0364140\n" =
    .ok ⟨⟨Secp256k1.groupOrder - 1, by decide, by decide⟩⟩ := by
  have hfront : ∀ c ∈ "\u2003 ".toList, Text.isBlank c = true := List.all_eq_true.mp (by decide)
  have hback : ∀ c ∈ "\n".toList, Text.isBlank c = true := List.all_eq_true.mp (by decide)
  have hdigits : ∀ c ∈ "fffffffffffffffffffffffffffffffebaaedce6af48a03bBFD25E8CD0364140".toList,
      Text.isHexDigit c = true :=
    List.all_eq_true.mp (by decide)
  refine (keys_exact.1 _ _).mpr
    ⟨_, "0Xfffffffffffffffffffffffffffffffebaaedce6af48a03bBFD25E8CD0364140".toList, _, _, ?_, hfront, hback,
    .inr (.inr ?_), ?_, hdigits, ?_⟩
  · decide
  · decide
  · decide
  · decide

end Signer

end CheckpointRelay
