import CheckpointRelay.Outcome.Diagnosis
import CheckpointRelay.Proofs.Abi.Reading
import CheckpointRelay.Proofs.Text.Hex
import CheckpointRelay.Proofs.Text.Infix

/-!
# Token transfers in the text beside an internal transaction

The calldata of a transfer is found in a text where its selector first occurs, in digits of either case and whatever
stands before and behind it (`transferIn?_of_holds`), and nothing else is taken for one (`transferIn?_eq_some_iff`). A
summary tells of the first rejected transaction, or of the last (`Selected`); it names the transfer in its text, or else
shows how the text starts (`summary?_exact`).
-/

namespace CheckpointRelay.InternalTransaction

/-! ## Calldata of transfers -/

/-- The calldata of a transfer. -/
def transferCall (recipient : Address) (amount : Uint256) : Bytes :=
  Abi.call (Abi.selector "transfer(address,uint256)") [Abi.ofAddress recipient, amount.toWord]

/-- The two words of a transfer. -/
def transferWords (recipient : Address) (amount : Uint256) : Bytes :=
  (Abi.ofAddress recipient).bytes ++ amount.toWord.bytes

/-- The data of a transfer is the function's selector and the words of its arguments. -/
theorem transferCall_eq (recipient : Address) (amount : Uint256) :
    transferCall recipient amount =
      (Abi.selector "transfer(address,uint256)").bytes ++ transferWords recipient amount := by
  simp [transferCall, transferWords, Abi.call, Abi.words]

set_option maxRecDepth 8000 in
/-- The digits that are searched for are those of the selector. -/
theorem encodeChars_transferSelector :
    Hex.encodeChars (Abi.selector "transfer(address,uint256)").bytes = transferSelector := by
  rw [Abi.bytes_selector (by decide)]
  decide

/-- The arguments of a transfer are two words. -/
theorem length_transferWords (recipient : Address) (amount : Uint256) :
    (transferWords recipient amount).length = 64 := by
  rw [transferWords, List.length_append, (Abi.ofAddress recipient).length_eq, amount.toWord.length_eq]

/-- The words of a transfer are read from them, and from nothing else of that length. -/
theorem eq_transferWords_iff {octets : Bytes} {recipient : Address} {amount : Uint256} (hlength : octets.length = 64) :
    octets = transferWords recipient amount ↔
      Abi.addressOf octets 0 = .ok recipient ∧ Abi.uint256Of octets 1 = .ok amount := by
  constructor
  · rintro rfl
    have hshort : (transferWords recipient amount).length < Bytes.maxLength := by
      rw [hlength]
      decide
    have hself := Abi.StandsAt.self (transferWords recipient amount)
    have hamount := hself.right
    rw [(Abi.ofAddress recipient).length_eq] at hamount
    exact ⟨Abi.addressOf_of_standsAt hshort hself.left, Abi.uint256Of_of_standsAt hshort hamount⟩
  · rintro ⟨hrecipient, hamount⟩
    have hfirst : Abi.wordOf octets 0 = .ok ⟨octets.take 32, by simp [hlength]⟩ := dif_pos (by omega)
    have hsecond : Abi.wordOf octets 1 = .ok ⟨(octets.drop 32).take 32, by simp [hlength]⟩ := dif_pos (by omega)
    have hrest : (octets.drop 32).take 32 = octets.drop 32 := List.take_of_length_le (by simp [hlength])
    rw [Abi.addressOf_eq_ok_iff, hfirst, Except.ok.injEq] at hrecipient
    rw [Abi.uint256Of_eq_ok_iff, hsecond, Except.ok.injEq] at hamount
    have htake : octets.take 32 = (Abi.ofAddress recipient).bytes := congrArg Octets.bytes hrecipient
    have hdrop : octets.drop 32 = amount.toWord.bytes := hrest.symm.trans (congrArg Octets.bytes hamount)
    rw [transferWords, ← htake, ← hdrop, List.take_append_drop]

/-! ## Where calldata stands in a text -/

/-- Letters of ASCII have one lower case. -/
theorem lower_eq_toLower : Text.lower = Char.toLower := by
  have key : ∀ n : Fin 128, Text.lower (Char.ofNat n.val) = (Char.ofNat n.val).toLower := by decide
  funext c
  by_cases hupper : 'A' ≤ c ∧ c ≤ 'Z'
  · have hkey := key ⟨c.toNat, Hex.toNat_lt_of_upper hupper⟩
    rwa [Char.ofNat_toNat] at hkey
  · unfold Text.lower Char.toLower
    rw [if_neg hupper, dif_neg (show ¬(c.val ≥ 'A'.val ∧ c.val ≤ 'Z'.val) from hupper)]

/-- A text holds the calldata of a transfer behind what does not hold the selector, in either letter case. -/
def Holds (extra : String) (recipient : Address) (amount : Uint256) : Prop :=
  ∃ front digits back, extra.toList = front ++ (digits ++ back) ∧ ¬transferSelector <:+: front.map Char.toLower ∧
    Hex.Spells digits (transferCall recipient amount)

/-- Where the words of a transfer stand in a text: behind the selector where it first occurs, in either letter case. -/
structure HeldFirst (extra : String) (recipient : Address) (amount : Uint256)
    (front selector arguments back : List Char) : Prop where
  text : extra.toList = front ++ (selector ++ (arguments ++ back))
  selector : selector.map Char.toLower = transferSelector
  /-- The selector starts nowhere before. -/
  first : ∀ earlier found rest, extra.toList = earlier ++ (found ++ rest) → found.map Char.toLower = transferSelector →
    front.length ≤ earlier.length
  /-- Every digit of the two words is there. -/
  length : arguments.length = 128
  arguments : Hex.Spells arguments (transferWords recipient amount)

/-- Digits in lower case are digits. -/
theorem isHexDigit_of_spells {cs : List Char} {b : Bytes} (h : Hex.Spells cs b) :
    ∀ c ∈ cs.map Char.toLower, Text.isHexDigit c = true := by
  have key : ∀ n : Fin 16, Text.isHexDigit (Text.hexDigit n.val) = true := by decide
  intro c hc
  obtain ⟨c, hmem, rfl⟩ := List.mem_map.mp hc
  obtain ⟨n, hn, hdigit⟩ := h.digit hmem
  rw [hdigit]
  exact key ⟨n, hn⟩

/-- Where an extra text holds a transfer, there is a first place where it does. -/
theorem Holds.first {extra : String} {recipient : Address} {amount : Uint256} (h : Holds extra recipient amount) :
    ∃ front selector arguments back, HeldFirst extra recipient amount front selector arguments back := by
  obtain ⟨front, digits, back, htext, hfront, hdigits⟩ := h
  rw [transferCall_eq] at hdigits
  obtain ⟨selector, arguments, rfl, hselector, harguments⟩ := Hex.spells_append_iff.mp hdigits
  have hfound : selector.map Char.toLower = transferSelector := hselector.trans encodeChars_transferSelector
  refine ⟨front, selector, arguments, back, ?_, hfound, ?_, ?_, harguments⟩
  · rw [htext, List.append_assoc]
  · intro earlier found rest heq hother
    have hlower := congrArg (List.map Char.toLower) (htext.symm.trans heq)
    simp only [List.map_append, hfound, hother, List.append_assoc] at hlower
    have hhead : 'a' ∉ "9059cbb".toList := by decide
    simpa using Text.length_le_of_not_infix hhead hfront hlower
  · rw [harguments.length_eq, length_transferWords]

/-- The digits that are looked at in what stands behind a selector. -/
def scanned (later : List Char) : List Char :=
  ((later.map Char.toLower).takeWhile Text.isHexDigit).take scanLength

/-- The digits of two words are all that is read of a text that goes on behind them. -/
theorem take_scanned {arguments : List Char} {b : Bytes} (back : List Char) (h : Hex.Spells arguments b)
    (hlength : arguments.length = 128) :
    argumentsLength ≤ (scanned (arguments ++ back)).length ∧
      (scanned (arguments ++ back)).take argumentsLength = arguments.map Char.toLower := by
  have hlower : (arguments.map Char.toLower).length = argumentsLength := by
    rw [List.length_map, hlength, argumentsLength]
  unfold scanned
  rw [List.map_append, List.takeWhile_append_of_pos (isHexDigit_of_spells h), List.take_take]
  constructor
  · rw [List.length_take, List.length_append, hlower]
    unfold argumentsLength scanLength
    omega
  · exact List.take_left' hlower

/-- What is read as two words stands in front of what is looked at. -/
theorem exists_arguments_of_scanned {later : List Char} {octets : Bytes}
    (hlong : ¬(scanned later).length < argumentsLength)
    (hread : Hex.Spells ((scanned later).take argumentsLength) octets) :
    ∃ arguments back, later = arguments ++ back ∧ arguments.length = 128 ∧ Hex.Spells arguments octets := by
  have hstart : (scanned later).take argumentsLength <+: later.map Char.toLower :=
    (List.take_prefix _ _).trans ((List.take_prefix _ _).trans (List.takeWhile_prefix _))
  have hlength : ((scanned later).take argumentsLength).length = 128 := by
    rw [List.length_take]
    unfold argumentsLength at hlong ⊢
    omega
  obtain ⟨behind, hbehind⟩ := hstart
  obtain ⟨arguments, back, rfl, harguments, -⟩ := List.map_eq_append_iff.mp hbehind.symm
  rw [← harguments, List.length_map] at hlength
  rw [← harguments, Hex.spells_map_toLower_iff] at hread
  exact ⟨arguments, back, rfl, hlength, hread⟩

/-- A transfer is found exactly where its words stand behind the first selector. -/
theorem transferIn?_eq_some_iff {extra : String} {recipient : Address} {amount : Uint256} :
    transferIn? extra = some (recipient, amount) ↔
      ∃ front selector arguments back, HeldFirst extra recipient amount front selector arguments back := by
  -- the search is in lower case, which changes neither the length nor the bytes that the digits spell
  unfold transferIn?
  simp only [Option.bind_eq_bind, Option.bind_eq_some_iff, lower_eq_toLower, Text.after?_map_eq_some_iff]
  constructor
  · rintro ⟨_, ⟨front, selector, later, htext, hselector, rfl, hfirst⟩, h⟩
    split at h
    next => nomatch h
    next hlong =>
      simp only [Option.bind_eq_some_iff, Result.toOption_eq_some, Hex.decodeChars_eq_ok_iff] at h
      obtain ⟨octets, hread, _, hrecipient, _, hamount, heq⟩ := h
      cases heq
      obtain ⟨arguments, back, rfl, hlength, harguments⟩ := exists_arguments_of_scanned hlong hread
      have hsize := harguments.length_eq
      obtain rfl := (eq_transferWords_iff (by omega)).mpr ⟨hrecipient, hamount⟩
      exact ⟨front, selector, arguments, back, htext, hselector, hfirst, hlength, harguments⟩
  · rintro ⟨front, selector, arguments, back, h⟩
    obtain ⟨hlong, hread⟩ := take_scanned back h.arguments h.length
    obtain ⟨hrecipient, hamount⟩ := (eq_transferWords_iff (length_transferWords recipient amount)).mp rfl
    have hdecode := Hex.decodeChars_eq_ok_iff.mpr (Hex.spells_map_toLower_iff.mpr h.arguments)
    refine ⟨_, ⟨front, selector, arguments ++ back, h.text, h.selector, rfl, h.first⟩, ?_⟩
    unfold scanned at hlong hread
    rw [if_neg (Nat.not_lt_of_le hlong), hread, hdecode]
    simp only [Except.toOption, Option.bind_some, hrecipient, hamount]
    rfl

/-- Without a first transfer none is found. -/
theorem transferIn?_eq_none {extra : String}
    (h : ∀ recipient amount front selector arguments back,
      ¬HeldFirst extra recipient amount front selector arguments back) :
    transferIn? extra = none := by
  rw [Option.eq_none_iff_forall_ne_some]
  intro found hfound
  obtain ⟨front, selector, arguments, back, hheld⟩ := transferIn?_eq_some_iff.mp hfound
  exact h _ _ front selector arguments back hheld

/-- Every transfer is found where the selector does not stand before it. -/
theorem transferIn?_of_holds {extra : String} {recipient : Address} {amount : Uint256}
    (h : Holds extra recipient amount) :
    transferIn? extra = some (recipient, amount) :=
  transferIn?_eq_some_iff.mpr h.first

/-! ## The text of a transfer -/

/-- What a summary says of a transfer. -/
def transferText (recipient : Address) (amount : Uint256) : String :=
  s!"erc20.transfer(to={recipient.accountHex}, value={amount.decimal})"

/-- A transfer is told by the account in hexadecimal and the amount in decimal. -/
theorem toList_transferText (recipient : Address) (amount : Uint256) : (transferText recipient amount).toList =
    "erc20.transfer(to=".toList ++ ("0x".toList ++
      (Hex.encodeChars recipient.account.bytes ++ (", value=".toList ++ (amount.decimal.toList ++ ")".toList)))) := by
  unfold transferText Address.accountHex Hex.encode
  simp only [toString, String.toList_append, String.toList_ofList, List.append_assoc]

/-- The text of a transfer tells it. -/
theorem transferText_inj {recipient recipient' : Address} {amount amount' : Uint256}
    (h : transferText recipient amount = transferText recipient' amount') :
    recipient = recipient' ∧ amount = amount' := by
  have hchars := congrArg String.toList h
  rw [toList_transferText, toList_transferText] at hchars
  have hlength (a : Address) : (Hex.encodeChars a.account.bytes).length = 40 := by
    rw [(Hex.spells_encodeChars _).length_eq, a.account.length_eq]
  have hbehind := List.append_cancel_left (List.append_cancel_left hchars)
  obtain ⟨haccount, hrest⟩ := List.append_inj hbehind (by rw [hlength, hlength])
  have hdecimal := List.append_cancel_right (List.append_cancel_left hrest)
  constructor
  · have hoctets := Octets.ext (Hex.encodeChars_injective haccount)
    cases recipient
    exact congrArg Address.mk hoctets
  · exact Uint256.decimal_injective (String.toList_injective hdecimal)

/-! ## Summaries -/

/-- The transaction that a summary tells about. -/
inductive Selected (ts : List InternalTransaction) (t : InternalTransaction) : Prop
  /-- It is the first that was rejected. -/
  | rejected {front back : List InternalTransaction} (hts : ts = front ++ t :: back) (ht : t.rejected = true)
    (hfront : ∀ earlier ∈ front, earlier.rejected = false)
  /-- It is the last, and none was rejected. -/
  | last {front : List InternalTransaction} (hts : ts = front ++ [t]) (hnone : ∀ other ∈ ts, other.rejected = false)

/-- The inner transaction that is told is the selected one. -/
theorem selected?_eq_some_iff {ts : List InternalTransaction} {t : InternalTransaction} :
    selected? ts = some t ↔ Selected ts t := by
  unfold selected?
  rw [Option.or_eq_some_iff, List.find?_eq_some_iff_append, List.find?_eq_none, List.getLast?_eq_some_iff]
  constructor
  · rintro (⟨ht, front, back, hts, hfront⟩ | ⟨hnone, front, hts⟩)
    · exact .rejected hts ht (by simpa using hfront)
    · exact .last hts (by simpa using hnone)
  · rintro (⟨hts, ht, hfront⟩ | ⟨hts, hnone⟩)
    · exact .inl ⟨ht, _, _, hts, by simpa using hfront⟩
    · exact .inr ⟨by simpa using hnone, _, hts⟩

/-- None is selected only of none. -/
theorem selected?_eq_none_iff {ts : List InternalTransaction} : selected? ts = none ↔ ts = [] := by
  unfold selected?
  rw [Option.or_eq_none_iff, List.getLast?_eq_none_iff]
  constructor
  · exact And.right
  · rintro rfl
    exact ⟨rfl, rfl⟩

/-- What a summary says before it comes to the extra text. -/
def heading (ts : List InternalTransaction) (t : InternalTransaction) : List String :=
  [s!"internalTxs={ts.length}"] ++ (if t.rejected then ["rejected=true"] else []) ++ t.partiesPart ++ t.notePart

/-- A summary with more behind its heading. -/
def told (ts : List InternalTransaction) (t : InternalTransaction) (more : List String) : String :=
  " ".intercalate (heading ts t ++ more)

/-- The summary tells the selected inner transaction. -/
theorem summary?_of_selected {ts : List InternalTransaction} {t : InternalTransaction} (h : Selected ts t) :
    summary? ts = some (told ts t t.extraPart) := by
  rw [summary?, selected?_eq_some_iff.mpr h]
  rfl

section

variable {ts : List InternalTransaction} {t : InternalTransaction}

/-- One part more stands behind a space. -/
theorem toList_told_singleton (part : String) :
    (told ts t [part]).toList = (told ts t []).toList ++ ' ' :: part.toList := by
  have hheading : (heading ts t).map String.toList ≠ [] := by simp [heading]
  unfold told
  rw [String.toList_intercalate, String.toList_intercalate, List.map_append, List.append_nil]
  exact Text.intercalate_concat ' ' part.toList hheading

/-- What is told of one part determines the part. -/
theorem told_singleton_inj {part part' : String} (h : told ts t [part] = told ts t [part']) : part = part' := by
  have hchars := congrArg String.toList h
  rw [toList_told_singleton, toList_told_singleton] at hchars
  exact String.toList_injective (List.cons.inj (List.append_cancel_left hchars)).2

/-- A part that is told makes a difference. -/
theorem told_singleton_ne_nil (part : String) : told ts t [part] ≠ told ts t [] := by
  intro h
  have hlength := congrArg (fun s => s.toList.length) h
  rw [toList_told_singleton, List.length_append] at hlength
  simp at hlength

/-- The extra text that holds a transfer is told as the transfer. -/
theorem extraPart_of_transfer {recipient : Address} {amount : Uint256}
    (h : transferIn? t.extra = some (recipient, amount)) :
    t.extraPart = [transferText recipient amount] := by
  unfold extraPart
  rw [h]
  rfl

/-- What is shown of a text without a transfer. -/
theorem extraPart_of_none (h : transferIn? t.extra = none) : t.extraPart =
    if t.extra = "" then [] else ["extra=" ++ Text.jsonLiteral (String.ofList (t.extra.toList.take 160))] := by
  unfold extraPart
  rw [h]
  rfl

/-- A transfer is told in other words than an extra text shown as it is. -/
theorem transferText_ne_shown (recipient : Address) (amount : Uint256) (s : String) :
    "extra=" ++ s ≠ transferText recipient amount := by
  intro h
  have hchars := congrArg String.toList h
  rw [toList_transferText, String.toList_append] at hchars
  have hsecond := congrArg (fun cs : List Char => cs[1]?) hchars
  simp at hsecond

/-- A transfer is told of only where the text holds one. -/
theorem exists_heldFirst_of_told {recipient : Address} {amount : Uint256}
    (h : told ts t t.extraPart = told ts t [transferText recipient amount]) :
    ∃ front selector arguments back, HeldFirst t.extra recipient amount front selector arguments back := by
  rw [← transferIn?_eq_some_iff]
  cases htransfer : transferIn? t.extra with
  | some found =>
    obtain ⟨recipient', amount'⟩ := found
    rw [extraPart_of_transfer htransfer] at h
    obtain ⟨rfl, rfl⟩ := transferText_inj (told_singleton_inj h)
    rfl
  | none =>
    rw [extraPart_of_none htransfer] at h
    split at h
    · exact absurd h.symm (told_singleton_ne_nil _)
    · exact absurd (told_singleton_inj h) (transferText_ne_shown recipient amount _)

end

/-- A summary of every list tells of the first rejected transaction, or of the last: it names the transfer that the
extra text holds, and that only; of any other text it shows the first hundred and sixty characters. -/
theorem summary?_exact (ts : List InternalTransaction) :
    (summary? ts = none ↔ ts = []) ∧ (∀ t, selected? ts = some t ↔ Selected ts t) ∧
    ∀ t, Selected ts t →
      (∀ recipient amount, Holds t.extra recipient amount →
        summary? ts = some (told ts t [transferText recipient amount])) ∧
      (∀ recipient amount, summary? ts = some (told ts t [transferText recipient amount]) →
        ∃ front selector arguments back, HeldFirst t.extra recipient amount front selector arguments back) ∧
      ((∀ recipient amount front selector arguments back,
        ¬HeldFirst t.extra recipient amount front selector arguments back) →
        t.extra ≠ "" → summary? ts =
          some (told ts t ["extra=" ++ Text.jsonLiteral (String.ofList (t.extra.toList.take 160))])) ∧
      (t.extra = "" → summary? ts = some (told ts t [])) := by
  refine ⟨?_, fun t => selected?_eq_some_iff, ?_⟩
  · rw [summary?, Option.map_eq_none_iff, selected?_eq_none_iff]
  intro t ht
  rw [summary?_of_selected ht]
  refine ⟨?_, ?_, ?_, ?_⟩
  · intro recipient amount h
    rw [extraPart_of_transfer (transferIn?_of_holds h)]
  · intro recipient amount h
    exact exists_heldFirst_of_told (Option.some.inj h)
  · intro hnone hne
    rw [extraPart_of_none (transferIn?_eq_none hnone), if_neg hne]
  · intro hempty
    have hnone : transferIn? t.extra = none := by
      rw [hempty]
      rfl
    rw [extraPart_of_none hnone, if_pos hempty]

/-- A transfer of seven units to the account of zeros, with its selector in capitals and text of other kinds around
it. -/
def sampleTransfer : InternalTransaction :=
  { rejected := true
    extra := String.ofList ("→0x".toList ++
      ("A9059CBB".toList ++ Hex.encodeChars (transferWords ⟨Octets.ofNat 20 0⟩ ⟨7, by decide⟩) ++ "f…".toList)) }

/-- The second of two transactions is rejected, and its transfer told of. -/
theorem summary?_exact_sample : Selected [{}, sampleTransfer] sampleTransfer ∧
    Holds sampleTransfer.extra ⟨Octets.ofNat 20 0⟩ ⟨7, by decide⟩ ∧
    summary? [{}, sampleTransfer] =
      some "internalTxs=2 rejected=true erc20.transfer(to=0x0000000000000000000000000000000000000000, value=7)" := by
  have hselected : Selected [{}, sampleTransfer] sampleTransfer := .rejected rfl rfl (List.forall_mem_singleton.mpr rfl)
  have hholds : Holds sampleTransfer.extra ⟨Octets.ofNat 20 0⟩ ⟨7, by decide⟩ := by
    refine ⟨"→0x".toList, _, "f…".toList, String.toList_ofList, by decide, ?_⟩
    rw [transferCall_eq, Hex.spells_append_iff]
    refine ⟨_, _, rfl, ?_, Hex.spells_encodeChars _⟩
    rw [Hex.Spells, encodeChars_transferSelector]
    decide
  refine ⟨hselected, hholds, ?_⟩
  rw [((summary?_exact _).2.2 _ hselected).1 _ _ hholds]
  decide +kernel

end CheckpointRelay.InternalTransaction
