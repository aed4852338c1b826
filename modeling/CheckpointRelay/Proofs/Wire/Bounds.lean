import CheckpointRelay.Proofs.Wire.Reading

/-!
# What is read has its bounds

A number that is read has sixty-four bits, so a string of octets that is read has a length of sixty-four bits. What
every field that a message takes in keeps true of the message is true of a message that is decoded (`decode_keeps`).
-/

namespace CheckpointRelay.Wire

variable {α β : Type}

/-! ## Numbers and octets -/

/-- Even the last octet of a number carries one bit. -/
theorem two_le_varintBound (limit : Nat) : 2 ≤ varintBound limit := by
  induction limit with
  | zero => exact Nat.le_refl 2
  | succ limit ih => exact Nat.le_trans ih (Nat.le_mul_of_pos_right _ (by decide))

/-- A number of at most so many octets is below their bound. -/
theorem readVarint?_lt {limit : Nat} {input : Bytes} {t : Taken input Nat}
    (h : readVarint? (limit + 1) input = some t) :
    t.value < varintBound limit := by
  -- on the octets left; the last one that may be read holds a single bit
  induction limit generalizing input with
  | zero =>
    cases input with
    | nil => cases h
    | cons octet rest =>
      simp only [readVarint?, true_and] at h
      split at h
      · split at h
        · cases h
        · next hone =>
          cases h
          have : ¬1 < octet.toNat := fun hlt => hone (UInt8.lt_iff_toNat_lt.mpr hlt)
          change octet.toNat < 2
          omega
      · cases h
  | succ limit ih =>
    cases input with
    | nil => cases h
    | cons octet rest =>
      simp only [readVarint?, Nat.succ_ne_zero, false_and, if_false] at h
      have htwo := two_le_varintBound limit
      split at h
      · next hsmall =>
        cases h
        have : octet.toNat < 128 := UInt8.lt_iff_toNat_lt.mp hsmall
        change octet.toNat < varintBound limit * 128
        omega
      · split at h
        · cases h
        · next hrest =>
          cases h
          have := ih hrest
          have := octet.toNat_lt
          change octet.toNat - 128 + 128 * _ < varintBound limit * 128
          omega

/-- A number that is read is below `2 ^ 64`. -/
theorem readVarint_lt {input : Bytes} {t : Taken input Nat} (h : readVarint input = .ok t) : t.value < UInt64.size := by
  unfold readVarint at h
  split at h
  · next hread =>
    cases h
    exact readVarint?_lt hread
  · nomatch h

/-- A string that is read with its length is shorter than `2 ^ 64`. -/
theorem readDelimited_lt {input : Bytes} {t : Taken input Bytes} (h : readDelimited input = .ok t) :
    t.value.length < UInt64.size := by
  obtain ⟨n, hn, h⟩ := Result.bind_eq_ok.mp h
  obtain ⟨b, hb, h⟩ := Result.bind_eq_ok.mp h
  cases Result.pure_eq_ok.mp h
  unfold readOctets at hb
  split at hb
  · cases hb
    exact Nat.lt_of_le_of_lt (List.length_take_le _ _) (readVarint_lt hn)
  · nomatch hb

/-- A field of octets that is taken is shorter than `2 ^ 64`. -/
theorem takeBytes_lt {key : Key} {input : Bytes} {l : Left input Bytes} (h : takeBytes key input = .ok l) :
    l.value.length < UInt64.size := by
  obtain ⟨_, _, h⟩ := Result.bind_eq_ok.mp h
  obtain ⟨t, ht, h⟩ := Result.bind_eq_ok.mp h
  cases Result.pure_eq_ok.mp h
  exact readDelimited_lt ht

/-! ## Messages -/

/-- What a message becomes by a known field is made of the value of that field. -/
theorem field_eq_ok {name : String} {input : Bytes} {r : Reading (Left input β)} {set : β → α} {l : Left input α}
    (h : inField name (do return (← r).map set) = .ok l) : ∃ v, r = .ok v ∧ l.value = set v.value := by
  obtain ⟨v, hv, h⟩ := Result.bind_eq_ok.mp (Result.mapError_eq_ok.mp h)
  cases Result.pure_eq_ok.mp h
  exact ⟨v, hv, rfl⟩

/-- A field that is not known leaves a message as it was. -/
theorem takeUnknown_eq_ok {depth : Nat} {key : Key} {m : α} {input : Bytes} {l : Left input α}
    (h : takeUnknown depth key m input = .ok l) : l.value = m := by
  obtain ⟨v, _, h⟩ := Result.bind_eq_ok.mp h
  cases Result.pure_eq_ok.mp h
  rfl

section

variable {take : TakeField α} {P : α → Prop}
  (hstep : ∀ {depth key m input} {l : Left input α}, P m → take depth key m input = .ok l → P l.value)

include hstep

/-- What each field keeps, reading fields keeps. -/
theorem takeFields_keeps {depth limit : Nat} {m : α} {input : Bytes} {l : Left input α} (hm : P m)
    (h : takeFields take depth limit m input = .ok l) : P l.value := by
  rw [takeFields] at h
  split at h
  · cases h
    exact hm
  · obtain ⟨k, _, h⟩ := Result.bind_eq_ok.mp h
    obtain ⟨t, ht, h⟩ := Result.bind_eq_ok.mp h
    obtain ⟨last, hlast, h⟩ := Result.bind_eq_ok.mp h
    cases Result.pure_eq_ok.mp h
    have hrest := takeFields_keeps (hstep hm ht) hlast
    exact hrest
termination_by input.length
decreasing_by exact Nat.lt_of_le_of_lt t.le k.shorter

/-- What each field keeps holds of what is decoded, if it holds of the message to start with. -/
theorem decode_keeps {empty m : α} {input : Bytes} (hempty : P empty) (h : decode take empty input = .ok m) : P m := by
  obtain ⟨l, hl, h⟩ := Result.bind_eq_ok.mp h
  cases Result.pure_eq_ok.mp h
  exact takeFields_keeps hstep hempty hl

end

end CheckpointRelay.Wire
