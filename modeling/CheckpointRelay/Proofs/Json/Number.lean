import CheckpointRelay.Proofs.Json.Reading
import CheckpointRelay.Proofs.Text.Digits

/-!
# Numbers in JSON read back

A number is written in parts (`Numeral`): a sign, digits before the point, and then a fraction and an exponent, if there
are any. Its parts are read one after the other, as long as nothing follows that the last of them could go on with
(`reads_readNumber`). So an integer in the range of sixty-four bits reads back, and a real that is written in
well-formed parts.
-/

namespace CheckpointRelay.Json

open Text

/-! ## Parts of a number -/

/-- The characters are decimal digits, and there is one. -/
def Digits (cs : List Char) : Prop :=
  cs ≠ [] ∧ ∀ c ∈ cs, isDigit c = true

/-- The first character, if there is one, is none of these. -/
def StartsApart (p : Char → Bool) (cs : List Char) : Prop :=
  ∀ c ∈ cs.head?, p c = false

/-- A written number in its parts. -/
structure Numeral where
  negative : Bool
  whole : List Char
  fraction : Option (List Char)
  exponent : Option Int

namespace Numeral

/-- The fraction with its point. -/
def fractionChars : Option (List Char) → List Char
  | none => []
  | some digits => '.' :: digits

/-- The exponent with its letter. -/
def exponentChars : Option Int → List Char
  | none => []
  | some e => 'e' :: (toString e).toList

/-- The characters behind the sign. -/
def unsigned (n : Numeral) : List Char :=
  n.whole ++ (fractionChars n.fraction ++ exponentChars n.exponent)

/-- The characters of the number. -/
def chars (n : Numeral) : List Char :=
  (if n.negative then ['-'] else []) ++ n.unsigned

/-- The value of the number. -/
def tree (n : Numeral) : Except Error Tree :=
  numberTree n.negative n.whole n.fraction n.exponent

/-- The digits before the point are a zero alone or start with another digit, and there are digits behind the point, if
it is there. -/
structure WellFormed (n : Numeral) : Prop where
  whole : Digits n.whole
  noZero : n.whole.head? = some '0' → n.whole.length = 1
  fraction : ∀ digits ∈ n.fraction, Digits digits

/-- A numeral's canonical text is its characters. -/
theorem toList_realText (n : Numeral) : (realText n.negative n.whole n.fraction n.exponent).toList = n.chars := by
  obtain ⟨negative, whole, fraction, exponent⟩ := n
  have hletter : (toString "e").toList = ['e'] := rfl
  cases negative <;> cases fraction <;> cases exponent
    <;> simp [realText, chars, unsigned, fractionChars, exponentChars, hletter]

end Numeral

/-! ## Reading the parts -/

section

variable {cs rest : List Char}

/-- Characters that pass, before a rest that starts with none, are exactly what is taken. -/
theorem takeWhile_append_rest {p : Char → Bool} (hcs : ∀ c ∈ cs, p c = true) (hrest : StartsApart p rest) :
    (cs ++ rest).takeWhile p = cs ∧ (cs ++ rest).dropWhile p = rest := by
  rw [List.takeWhile_append_of_pos hcs, List.dropWhile_append_of_pos hcs]
  cases rest with
  | nil => exact ⟨List.append_nil cs, rfl⟩
  | cons c rest =>
    have hc : ¬p c = true := by
      rw [hrest c rfl]
      decide
    rw [List.takeWhile_cons_of_neg hc, List.dropWhile_cons_of_neg hc]
    exact ⟨List.append_nil cs, rfl⟩

/-- A scan with that value and that rest reads it. -/
theorem reads_ok {α : Type} {input : List Char} {value : α} {s : Scanned input α} (hvalue : s.value = value)
    (hrest : s.rest = rest) :
    Reads (.ok s) value rest := by
  subst hvalue hrest
  exact ⟨s.shorter, rfl⟩

/-- Digits are read up to the first character that is none. -/
theorem reads_readDigits (hcs : Digits cs) (hrest : StartsApart isDigit rest) :
    Reads (readDigits (cs ++ rest)) cs rest := by
  obtain ⟨htake, hdrop⟩ := takeWhile_append_rest hcs.2 hrest
  have hne : ¬(cs ++ rest).takeWhile isDigit = [] := by
    rw [htake]
    exact hcs.1
  rw [readDigits, dif_neg hne]
  exact reads_ok htake hdrop

/-- The whole part is read up to the first character that is no digit. -/
theorem reads_readWhole (hcs : Digits cs) (hzero : cs.head? = some '0' → cs.length = 1)
    (hrest : StartsApart isDigit rest) :
    Reads (readWhole (cs ++ rest)) cs rest := by
  obtain ⟨shorter, hdigits⟩ := reads_readDigits hcs hrest
  have hsound : ¬(cs.head? = some '0' ∧ 1 < cs.length) := fun h => absurd (hzero h.1) (Nat.ne_of_gt h.2)
  rw [readWhole, hdigits, Result.ok_bind]
  dsimp only
  rw [if_neg hsound]
  exact ⟨shorter, rfl⟩

/-- A part that need not be there is read, or found not to be there. -/
def ReadsPart {α : Type} {input : List Char} (r : Except Error (Option (Scanned input α))) (part : Option α)
    (rest : List Char) : Prop :=
  ∃ found, r = .ok found ∧ found.map (·.value) = part ∧ Scanned.restAfter found = rest

/-- The fraction is read with its point, or is absent. -/
theorem reads_readFraction {fraction : Option (List Char)} (hfraction : ∀ digits ∈ fraction, Digits digits)
    (hdigit : StartsApart isDigit rest) (hpoint : StartsApart (· = '.') rest) :
    ReadsPart (readFraction (Numeral.fractionChars fraction ++ rest)) fraction rest := by
  cases fraction with
  | none =>
    change ReadsPart (readFraction rest) none rest
    unfold readFraction
    split
    · nomatch hpoint '.' rfl
    · exact ⟨none, rfl, rfl, rfl⟩
  | some digits =>
    change ReadsPart (readFraction ('.' :: (digits ++ rest))) (some digits) rest
    obtain ⟨shorter, hdigits⟩ := reads_readDigits (hfraction digits rfl) hdigit
    rw [readFraction, hdigits]
    exact ⟨_, rfl, rfl, rfl⟩

/-- A number that is not negative is printed as its decimal digits. -/
theorem toList_toString_ofNat (n : Nat) : (toString (Int.ofNat n)).toList = Nat.toDigits 10 n := by
  have hrepr : toString (Int.ofNat n) = n.repr := rfl
  rw [hrepr, Nat.repr, String.toList_ofList]

/-- A negative number is printed as a minus sign and its decimal digits. -/
theorem toList_toString_negSucc (n : Nat) : (toString (Int.negSucc n)).toList = '-' :: Nat.toDigits 10 (n + 1) := by
  have hrepr : toString (Int.negSucc n) = "-" ++ (n + 1).repr := rfl
  rw [hrepr, String.toList_append, Nat.repr, String.toList_ofList, String.toList_ofList, List.singleton_append]

/-- The decimal digits of a number are digits, and there is one at least. -/
theorem digits_toDigits (n : Nat) : Digits (Nat.toDigits 10 n) :=
  ⟨Nat.toDigits_ne_nil, fun _ => isDigit_of_mem_toDigits⟩

/-- What begins with digits begins with a digit. -/
theorem Digits.head (hcs : Digits cs) (rest : List Char) : ∀ c ∈ (cs ++ rest).head?, isDigit c = true := by
  cases cs with
  | nil => exact absurd rfl hcs.1
  | cons c cs =>
    rintro _ ⟨⟩
    exact hcs.2 c List.mem_cons_self

/-- Digits without a sign are their number. -/
theorem readSigned_of_digits {input : List Char} (h : ∀ c ∈ input.head?, isDigit c = true) :
    readSigned input = (readDigits input).map fun ds => ds.map fun ds => (numberOf 10 ds : Int) := by
  unfold readSigned
  split
  · exact absurd (h '+' rfl) (by decide)
  · exact absurd (h '-' rfl) (by decide)
  · rfl

/-- The digits of an exponent with its sign are read as the exponent. -/
theorem reads_readSigned (e : Int) (hrest : StartsApart isDigit rest) :
    Reads (readSigned ((toString e).toList ++ rest)) e rest := by
  cases e with
  | ofNat n =>
    rw [toList_toString_ofNat, readSigned_of_digits ((digits_toDigits n).head rest)]
    obtain ⟨shorter, hread⟩ := reads_readDigits (digits_toDigits n) hrest
    rw [hread]
    exact reads_ok (congrArg Int.ofNat (numberOf_toDigits n)) rfl
  | negSucc n =>
    rw [toList_toString_negSucc]
    change Reads (readSigned ('-' :: (Nat.toDigits 10 (n + 1) ++ rest))) _ rest
    obtain ⟨shorter, hread⟩ := reads_readDigits (digits_toDigits (n + 1)) hrest
    rw [readSigned, hread]
    exact reads_ok (congrArg (fun n : Nat => -(n : Int)) (numberOf_toDigits (n + 1))) rfl

/-- The exponent is read with its letter and sign, or is absent. -/
theorem reads_readExponent {exponent : Option Int} (hdigit : StartsApart isDigit rest)
    (hletter : StartsApart (fun c => decide (c = 'e' ∨ c = 'E')) rest) :
    ReadsPart (readExponent (Numeral.exponentChars exponent ++ rest)) exponent rest := by
  cases exponent with
  | none =>
    change ReadsPart (readExponent rest) none rest
    cases rest with
    | nil => exact ⟨none, rfl, rfl, rfl⟩
    | cons c rest =>
      have hc : ¬(c = 'e' ∨ c = 'E') := of_decide_eq_false (hletter c rfl)
      rw [readExponent, if_neg hc]
      exact ⟨none, rfl, rfl, rfl⟩
  | some e =>
    change ReadsPart (readExponent ('e' :: ((toString e).toList ++ rest))) (some e) rest
    obtain ⟨shorter, hread⟩ := reads_readSigned e hdigit
    rw [readExponent, if_pos (Or.inl rfl), hread]
    exact ⟨_, rfl, rfl, rfl⟩

/-! ## What follows the parts -/

/-- A rest that ends the value starts with no character of a number. -/
theorem Ends.apart {p : Char → Bool} (h : Ends rest) (hp : [',', ']', '\x7d'].any p = false) : StartsApart p rest := by
  intro c hc
  have hmem : c ∈ [',', ']', '\x7d'] := by
    rw [List.mem_cons, List.mem_cons, List.mem_singleton]
    exact h c hc
  exact Bool.eq_false_iff.mpr (List.any_eq_false.mp hp c hmem)

/-- An exponent starts with its letter, and no exponent with the rest. -/
theorem apart_exponentChars {p : Char → Bool} {exponent : Option Int} (hletter : p 'e' = false)
    (hrest : StartsApart p rest) :
    StartsApart p (Numeral.exponentChars exponent ++ rest) := by
  cases exponent with
  | none => exact hrest
  | some e =>
    rintro _ ⟨⟩
    exact hletter

/-- A fraction starts with its point, and no fraction with the rest. -/
theorem apart_fractionChars {p : Char → Bool} {fraction : Option (List Char)} (hpoint : p '.' = false)
    (hrest : StartsApart p rest) :
    StartsApart p (Numeral.fractionChars fraction ++ rest) := by
  cases fraction with
  | none => exact hrest
  | some digits =>
    rintro _ ⟨⟩
    exact hpoint

/-! ## Whole numbers -/

/-- A number without its sign is read from its parts, where a value can stand. -/
theorem reads_readNumber {n : Numeral} {t : Tree} (hn : n.WellFormed) (ht : n.tree = .ok t) (hrest : Ends rest) :
    Reads (readNumber n.negative (n.unsigned ++ rest)) t rest := by
  have hdigit : StartsApart isDigit (Numeral.exponentChars n.exponent ++ rest) :=
    apart_exponentChars (by decide) (hrest.apart (by decide))
  obtain ⟨shorter, hwhole⟩ := reads_readWhole hn.whole hn.noZero (apart_fractionChars (by decide) hdigit)
  obtain ⟨fraction, hfraction, hfractionPart, hfractionRest⟩ := reads_readFraction hn.fraction hdigit
    (apart_exponentChars (by decide) (hrest.apart (by decide)))
  obtain ⟨exponent, hexponent, hexponentPart, hexponentRest⟩ :
      ReadsPart (readExponent (Scanned.restAfter fraction)) n.exponent rest := by
    rw [hfractionRest]
    exact reads_readExponent (hrest.apart (by decide)) (hrest.apart (by decide))
  have hsplit : n.unsigned ++ rest =
      n.whole ++ (Numeral.fractionChars n.fraction ++ (Numeral.exponentChars n.exponent ++ rest)) := by
    simp [Numeral.unsigned]
  rw [hsplit, readNumber, hwhole, Result.ok_bind]
  dsimp only
  rw [hfraction, Result.ok_bind, hexponent, Result.ok_bind, hfractionPart, hexponentPart]
  rw [Numeral.tree] at ht
  rw [ht]
  exact reads_ok rfl hexponentRest

end

namespace Numeral

/-- The numeral of an integer. -/
def ofInt (n : Int) : Numeral :=
  ⟨decide (n < 0), Nat.toDigits 10 n.natAbs, none, none⟩

/-- The numeral of an integer is spelled as the integer is printed. -/
theorem chars_ofInt (n : Int) : (ofInt n).chars = (toString n).toList := by
  cases n with
  | ofNat n => rw [toList_toString_ofNat]; simp [ofInt, chars, unsigned, fractionChars, exponentChars]
  | negSucc n => rw [toList_toString_negSucc]; simp [ofInt, chars, unsigned, fractionChars, exponentChars]

/-- No number but zero starts with the digit zero. -/
theorem eq_zero_of_head_toDigits {n : Nat} (h : (Nat.toDigits 10 n).head? = some '0') : n = 0 := by
  induction n using Nat.strongRecOn with
  | ind n ih =>
    by_cases hsmall : n < 10
    · have hall : ∀ m : Fin 10, Nat.digitChar m.val = '0' → m.val = 0 := by decide
      rw [Nat.toDigits_of_lt_base hsmall] at h
      exact hall ⟨n, hsmall⟩ (Option.some.inj h)
    · rw [Nat.toDigits_of_base_le (by decide) (Nat.le_of_not_lt hsmall),
        List.head?_append_of_ne_nil _ Nat.toDigits_ne_nil] at h
      have hzero : n / 10 = 0 := ih (n / 10) (by omega) h
      omega

/-- The numeral of an integer is well formed. -/
theorem wellFormed_ofInt (n : Int) : (ofInt n).WellFormed where
  whole := digits_toDigits _
  noZero h := by
    have hzero : n.natAbs = 0 := eq_zero_of_head_toDigits h
    rw [ofInt, hzero]
    rfl
  fraction := nofun

/-- A number of at most twenty digits is in the range of a double. -/
theorem fitsDouble_of_lt {m : Nat} (h : m < 10 ^ 20) : Tree.fitsDouble m 0 = true := by
  have hlength : (toString m).length ≤ 20 := by
    rw [Nat.toString_eq_repr, Nat.repr, String.length_ofList]
    exact (Nat.length_toDigits_le_iff (by decide) (by decide)).mpr h
  have hsize : ((toString m).length : Int) + 0 < 300 := by omega
  rw [Tree.fitsDouble, if_pos (Or.inr hsize)]

/-- An integer that fits sixty-four bits, with a sign or without, is kept. -/
theorem integer?_natAbs {n : Int} (hlow : Int64.minValue.toInt ≤ n) (hhigh : n < UInt64.size) :
    integer? (decide (n < 0)) n.natAbs = some n := by
  unfold integer?
  by_cases hsign : n < 0
  · have habs : -(n.natAbs : Int) = n := by omega
    rw [decide_eq_true hsign, if_pos rfl, habs, if_pos ⟨by omega, hlow⟩]
  · have habs : (n.natAbs : Int) = n := by omega
    rw [decide_eq_false hsign, if_neg Bool.false_ne_true, habs, if_pos (by omega)]

/-- An integer in the range of sixty-four bits, with a sign or without, is the value of its numeral. -/
theorem tree_ofInt {n : Int} (hlow : Int64.minValue.toInt ≤ n) (hhigh : n < UInt64.size) :
    (ofInt n).tree = .ok (.integer n) := by
  have hleast : Int64.minValue.toInt = -9223372036854775808 := by decide
  have hcount : (UInt64.size : Int) = 18446744073709551616 := by decide
  have hfits : Tree.fitsDouble n.natAbs 0 = true := fitsDouble_of_lt (by omega)
  unfold tree numberTree ofInt
  simp only [Option.getD_none, List.append_nil, numberOf_toDigits, integer?_natAbs hlow hhigh, List.length_nil]
  exact if_pos hfits

end Numeral

end CheckpointRelay.Json
