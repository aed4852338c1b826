import CheckpointRelay.Controller.Relay
import CheckpointRelay.Proofs.Node.Lookups
import CheckpointRelay.Proofs.Outcome.Reason
import CheckpointRelay.Proofs.Text.Hex
import CheckpointRelay.Proofs.Text.Infix

/-!
# The mark of a lost race

A batch is tried again if the text about its failure holds a mark, `Error("no")`. That text is put together from what
the node says, from the revert data and from internal transactions, and whoever is called chooses most of it. The mark
gets into it in two ways only: the node's own message holds it, or the call reverted with the text `no`
(`failure_marked_iff`).

No mark reaches across a join, for it holds neither a space nor a semicolon. What is quoted is escaped, so behind a
parenthesis no quote followed by `n` stands in it; and the quotes around it stand behind another character than a
parenthesis, the one of `Error(` apart.
-/

namespace CheckpointRelay

open Text

/-! ## What a message of the node says -/

/-- What a message says: the text of the octets whose digits it is, in either case, and itself if it is not
hexadecimal. -/
inductive Says (message : String) : String → Prop
  /-- Ill-formed octets are replaced. -/
  | octets (b : Bytes) (h : Hex.Spells message.toList b) : Says message (Utf8.decodeLossy b)
  | verbatim (h : ∀ b, ¬Hex.Spells message.toList b) : Says message message

/-- Every message says one text, the one that is read from it. -/
theorem says_iff {message text : String} : Says message text ↔ hexText message = text := by
  have hspells : ∀ b, Hex.decode message = .ok b ↔ Hex.Spells message.toList b := fun _ => Hex.decodeChars_eq_ok_iff
  unfold hexText
  cases hdecode : Hex.decode message with
  | ok octets =>
    have hoctets := (hspells octets).mp hdecode
    constructor
    · rintro (⟨b, hb⟩ | hnone)
      · rw [hb.unique hoctets]
      · exact absurd hoctets (hnone octets)
    · rintro rfl
      exact .octets octets hoctets
  | error e =>
    have hnone : ∀ b, ¬Hex.Spells message.toList b := fun b hb => nomatch hdecode.symm.trans ((hspells b).mpr hb)
    constructor
    · rintro (⟨b, hb⟩ | _)
      · exact absurd hb (hnone b)
      · rfl
    · rintro rfl
      exact .verbatim hnone

/-- A text that is written in hexadecimal digits is what these say. -/
theorem says_encode (text : String) : Says (Hex.encode (Utf8.encode text)) text := by
  have hspells := Hex.spells_encodeChars (Utf8.encode text)
  rw [← String.toList_ofList (l := Hex.encodeChars (Utf8.encode text))] at hspells
  have hmessage := Says.octets _ hspells
  rwa [Utf8.decodeLossy_encode] at hmessage

namespace MarkAux

/-- The characters of the mark. -/
def mark : List Char := ['E', 'r', 'r', 'o', 'r', '(', '"', 'n', 'o', '"', ')']

/-- The characters of the mark. -/
theorem toList_tipMismatchMark : Relayer.tipMismatchMark.toList = mark := by
  decide

/-- What the mark opens with: a quoted text that starts with `n` in parentheses. -/
def opening : List Char := ['(', '"', 'n']

/-- The mark holds what opens a revert. -/
theorem opening_infix_mark : opening <:+: mark :=
  ⟨['E', 'r', 'r', 'o', 'r'], ['o', '"', ')'], rfl⟩

/-! ## Literals -/

/-- What is written for a character inside a text does not start with a quote. -/
theorem jsonEscaped_eq_cons (c : Char) : ∃ x later, jsonEscaped c = x :: later ∧ x ≠ '"' := by
  obtain ⟨letter, hescaped, -⟩ | ⟨hescaped, -⟩ | ⟨hescaped, hquote, -⟩ := Json.jsonEscaped_cases c
  · exact ⟨_, _, hescaped, by decide⟩
  · exact ⟨_, _, hescaped, by decide⟩
  · exact ⟨_, _, hescaped, hquote⟩

/-- No text opens so behind a character of a literal, unless it is the one that stands in front of the quote. -/
theorem not_opens_inside (cs rest : List Char) (hrest : rest.head? ≠ some 'n') :
    ¬['"', 'n'] <+: cs.flatMap jsonEscaped ++ '"' :: rest := by
  cases cs with
  | nil =>
    rw [List.flatMap_nil, List.nil_append, List.cons_prefix_cons]
    rintro ⟨-, later, hlater⟩
    rw [← hlater] at hrest
    exact hrest rfl
  | cons c cs =>
    obtain ⟨x, later, hescaped, hx⟩ := jsonEscaped_eq_cons c
    rw [List.flatMap_cons, hescaped, List.cons_append, List.cons_append, List.cons_prefix_cons]
    exact fun h => hx h.1.symm

/-- A hexadecimal digit is no parenthesis. -/
theorem hexDigit_ne_parenthesis {n : Nat} (h : n < 16) : hexDigit n ≠ '(' := by
  have key : ∀ n : Fin 16, hexDigit n.val ≠ '(' := by decide
  exact key ⟨n, h⟩

/-- Inside a literal, and at the quote that ends it, nothing opens as the mark does. -/
theorem not_opening_inside (cs rest : List Char) (hhead : rest.head? ≠ some 'n') (hrest : ¬opening <:+: rest) :
    ¬opening <:+: cs.flatMap jsonEscaped ++ '"' :: rest := by
  induction cs with
  | nil =>
    rw [List.flatMap_nil, List.nil_append]
    have hquote : '(' ∉ ['"'] := by decide
    exact fun h => hrest ((infix_append_iff_of_head hquote).mp h)
  | cons c cs ih =>
    have hnext := not_opens_inside cs rest hhead
    rw [List.flatMap_cons, List.append_assoc]
    obtain ⟨letter, hescaped, -, hmeaning⟩ | ⟨hescaped, hcontrol⟩ | ⟨hescaped, -⟩ := Json.jsonEscaped_cases c
    -- a short escape: neither the backslash nor its letter opens a parenthesis
    · rw [hescaped]
      have hletter : '(' ∉ ['\\', letter] := by
        intro hmem
        rcases List.mem_cons.mp hmem with h | h
        · nomatch h
        · rw [← List.mem_singleton.mp h] at hmeaning
          nomatch hmeaning
      exact fun h => ih ((infix_append_iff_of_head hletter).mp h)
    -- a control character: its digits do not open one either
    · rw [hescaped]
      have hdigits : '(' ∉ ['\\', 'u', '0', '0', hexDigit (c.toNat / 16), hexDigit (c.toNat % 16)] := by
        have hhigh := hexDigit_ne_parenthesis (show c.toNat / 16 < 16 by omega)
        have hlow := hexDigit_ne_parenthesis (show c.toNat % 16 < 16 by omega)
        simp [hhigh.symm, hlow.symm]
      exact fun h => ih ((infix_append_iff_of_head hdigits).mp h)
    -- any other character stands for itself and may open one, but what follows is not the rest of the opening
    · rw [hescaped, List.singleton_append]
      intro h
      rcases List.infix_cons_iff.mp h with hstart | hinfix
      · exact hnext (List.cons_prefix_cons.mp hstart).2
      · exact ih hinfix

/-- A literal behind a name that holds no parenthesis does not open so. -/
theorem not_opening_literal {name : String} (hname : '(' ∉ name.toList) (s : String) :
    ¬opening <:+: (name ++ jsonLiteral s).toList := by
  have hquote : '(' ∉ name.toList ++ ['"'] := by
    simp [hname]
  have hliteral : (name ++ jsonLiteral s).toList =
      (name.toList ++ ['"']) ++ (s.toList.flatMap jsonEscaped ++ '"' :: []) := by
    simp [jsonLiteral, jsonLiteralChars]
  rw [hliteral]
  exact fun h => not_opening_inside s.toList [] (by decide) (by decide) ((infix_append_iff_of_head hquote).mp h)

/-- Behind the start of a quoted text, the mark goes on where that text is `no`. -/
theorem opens_no_iff (cs back : List Char) :
    ['n', 'o', '"', ')'] <+: cs.flatMap jsonEscaped ++ '"' :: ')' :: back ↔ cs = ['n', 'o'] := by
  constructor
  · rintro ⟨later, hlater⟩
    -- What is read up to the quote is the same text on both sides.
    have hno := Json.readText_jsonEscaped ['n', 'o'] (')' :: later)
    rw [show ['n', 'o'].flatMap jsonEscaped ++ '"' :: ')' :: later = cs.flatMap jsonEscaped ++ '"' :: ')' :: back from
      hlater] at hno
    obtain ⟨_, hno⟩ := hno
    obtain ⟨_, hcs⟩ := Json.readText_jsonEscaped cs (')' :: back)
    cases hcs.symm.trans hno
    rfl
  · rintro rfl
    exact ⟨back, rfl⟩

/-! ## Texts without quotes -/

/-- Texts without a quotation mark make a text without one. -/
theorem quote_notMem_append {s s' : String} (h : '"' ∉ s.toList) (h' : '"' ∉ s'.toList) : '"' ∉ (s ++ s').toList := by
  rw [String.toList_append, List.mem_append]
  exact fun hmem => hmem.elim h h'

/-- A number in decimal has no quotation mark. -/
theorem quote_notMem_decimal (n : Nat) : '"' ∉ (toString n).toList := by
  rw [Nat.toString_eq_repr, Nat.toList_repr]
  intro h
  have := Nat.isDigit_of_mem_toDigits (by decide) (by decide) h
  nomatch this

/-- Octets in hexadecimal have no quotation mark. -/
theorem quote_notMem_hex (b : Bytes) : '"' ∉ (Hex.encode b).toList := by
  have key : ∀ n : Fin 16, '"' ≠ hexDigit n.val := by decide
  rw [Hex.encode, String.toList_ofList, Hex.encodeChars, List.mem_flatMap]
  rintro ⟨octet, -, hmem⟩
  have hlt : octet.toNat < 256 := octet.toNat_lt
  rcases List.mem_cons.mp hmem with h | h
  · exact key ⟨octet.toNat / 16, by omega⟩ h
  · exact key ⟨octet.toNat % 16, by omega⟩ (List.mem_singleton.mp h)

/-- A number to base 58 has no quotation mark. -/
theorem quote_notMem_digits (n : Nat) : '"' ∉ Base58.digits n := by
  have key : ∀ n : Fin 58, '"' ≠ Base58.digit n.val := by decide
  induction n using Base58.digits.induct with
  | case1 => simp [Base58.digits]
  | case2 n h ih =>
    rw [Base58.digits, dif_neg h, List.mem_append]
    rintro (hmem | hmem)
    · exact ih hmem
    · exact key ⟨n % 58, Nat.mod_lt n (by decide)⟩ (List.mem_singleton.mp hmem)

/-- An address has no quotation mark. -/
theorem quote_notMem_address (a : Address) : '"' ∉ (toString a).toList := by
  have htext : (toString a).toList = Base58.encodeChars (a.bytes ++ Base58.checksum a.bytes) := String.toList_ofList
  rw [htext, Base58.encodeChars, List.mem_append]
  rintro (h | h)
  · exact absurd (List.eq_of_mem_replicate h) (by decide)
  · exact quote_notMem_digits _ h

/-! ## Parts of a summary -/

/-- Nothing in the summary of internal transactions opens as the mark does. -/
theorem not_opening_summary {ts : List InternalTransaction} {s : String}
    (h : InternalTransaction.summary? ts = some s) :
    ¬opening <:+: s.toList := by
  obtain ⟨t, -, rfl⟩ := Option.map_eq_some_iff.mp h
  -- the parts are joined by blanks and the opening holds none, so it would stand inside a single part
  have hspace : ' ' ∉ opening := by decide
  have hquote : '"' ∈ opening := by decide
  rw [String.toList_intercalate, show " ".toList = [' '] from rfl, infix_intercalate_iff hspace (by simp)]
  rintro ⟨_, hmem, hinfix⟩
  obtain ⟨part, hpart, rfl⟩ := List.mem_map.mp hmem
  revert hinfix
  simp only [List.mem_append] at hpart
  rcases hpart with (((hcount | hrejected) | hparties) | hnote) | hextra
  · cases List.mem_singleton.mp hcount
    exact not_infix_of_notMem hquote (quote_notMem_append (by decide) (quote_notMem_decimal _))
  · split at hrejected
    · cases List.mem_singleton.mp hrejected
      exact not_infix_of_notMem hquote (by decide)
    · nomatch hrejected
  · unfold InternalTransaction.partiesPart at hparties
    split at hparties
    · cases List.mem_singleton.mp hparties
      refine not_infix_of_notMem hquote ?_
      exact quote_notMem_append (quote_notMem_append (quote_notMem_address _) (by decide)) (quote_notMem_address _)
    · nomatch hparties
  · unfold InternalTransaction.notePart at hnote
    split at hnote
    · nomatch hnote
    · cases List.mem_singleton.mp hnote
      exact not_opening_literal (show '(' ∉ "note=".toList by decide) t.noteText
  · unfold InternalTransaction.extraPart at hextra
    split at hextra
    · rename_i recipient amount _
      cases List.mem_singleton.mp hextra
      have hrecipient : '"' ∉ recipient.accountHex.toList := quote_notMem_append (by decide) (quote_notMem_hex _)
      have hamount : '"' ∉ amount.decimal.toList := quote_notMem_decimal _
      refine not_infix_of_notMem hquote ?_
      exact quote_notMem_append
        (quote_notMem_append (quote_notMem_append (quote_notMem_append (by decide) hrecipient) (by decide))
        hamount) (by decide)
    · split at hextra
      · nomatch hextra
      · cases List.mem_singleton.mp hextra
        exact not_opening_literal (show '(' ∉ "extra=".toList by decide) _

/-! ## Revert data -/

/-- The name of a custom error has no quotation mark. -/
theorem quote_notMem_custom {data : Bytes} {name : String} (h : Revert.reason? data = some (.custom name)) :
    '"' ∉ name.toList := by
  have key : ∀ e ∈ Revert.customErrors, '"' ∉ e.2.toList := by decide
  cases Revert.tells_of_reason? h with
  | custom he => exact key _ he

/-- The text of a reason holds a quote only if a text is told. -/
theorem quote_notMem_reason {data : Bytes} {reason : Revert.Reason} (h : Revert.reason? data = some reason)
    (hreason : ∀ text, reason ≠ .error (some text)) : '"' ∉ reason.text.toList := by
  match reason, h, hreason with
  | .error (some text), _, hreason => exact absurd rfl (hreason text)
  | .error none, _, _ => decide
  | .panic (some code), _, _ =>
    exact quote_notMem_append (quote_notMem_append (by decide) (quote_notMem_decimal _)) (by decide)
  | .panic none, _, _ => decide
  | .custom name, h, _ => exact quote_notMem_custom h

/-- The mark stands in what is told of a text where that text is `no`. -/
theorem mark_infix_error (text : String) (tail : List Char) (htail : '"' ∉ tail) :
    mark <:+: (Revert.Reason.error (some text)).text.toList ++ tail ↔ text = "no" := by
  have hchars : (Revert.Reason.error (some text)).text.toList ++ tail =
      'E' :: (['r', 'r', 'o', 'r', '(', '"'] ++ (text.toList.flatMap jsonEscaped ++ '"' :: ')' :: tail)) := by
    change ("Error(" ++ jsonLiteral text ++ ")").toList ++ tail = _
    simp [jsonLiteral, jsonLiteralChars]
  have htext : text.toList = ['n', 'o'] ↔ text = "no" :=
    ⟨fun h => String.toList_injective h, fun h => h ▸ rfl⟩
  have hinside : ¬mark <:+: text.toList.flatMap jsonEscaped ++ '"' :: ')' :: tail := by
    intro h
    have htailOpening : ¬opening <:+: ')' :: tail :=
      not_infix_of_notMem (show '"' ∈ opening by decide) (by simp [htail])
    exact not_opening_inside text.toList _ (by simp) htailOpening (opening_infix_mark.trans h)
  have hhead : 'E' ∉ ['r', 'r', 'o', 'r', '(', '"'] := by decide
  rw [hchars, List.infix_cons_iff, ← htext, ← opens_no_iff text.toList tail]
  constructor
  · rintro (hstart | hinfix)
    · exact (List.prefix_append_right_inj ['E', 'r', 'r', 'o', 'r', '(', '"']).mp hstart
    · exact absurd ((infix_append_iff_of_head hhead).mp hinfix) hinside
  · intro hno
    exact .inl ((List.prefix_append_right_inj ['E', 'r', 'r', 'o', 'r', '(', '"']).mpr hno)

/-- The mark stands in what the revert data says, whatever is behind it that holds no quote, where that is the text
`no`. -/
theorem mark_infix_revertPart {o : Outcome} {r : String} (h : o.revertPart? = some r) (tail : List Char)
    (htail : '"' ∉ tail) :
    mark <:+: r.toList ++ tail ↔ Revert.reason? o.returnData = some (.error (some "no")) := by
  -- without a quote there is no mark, and only the text of an error is quoted
  have hfree : '"' ∉ r.toList → ¬mark <:+: r.toList ++ tail := by
    intro hr
    refine not_infix_of_notMem (show '"' ∈ mark by decide) ?_
    rw [List.mem_append]
    exact fun hmem => hmem.elim hr htail
  unfold Outcome.revertPart? at h
  split at h
  · nomatch h
  cases Option.some.inj h
  unfold Revert.describe? at *
  cases hreason : Revert.reason? o.returnData with
  | none =>
    rw [hreason] at hfree
    refine iff_of_false (hfree ?_) nofun
    exact quote_notMem_append
      (quote_notMem_append (quote_notMem_append (quote_notMem_append (by decide) (quote_notMem_hex _))
      (by decide)) (quote_notMem_decimal _)) (by decide)
  | some reason =>
    rw [hreason] at hfree
    rw [Option.map_some, Option.getD_some] at hfree ⊢
    by_cases herror : ∃ text, reason = .error (some text)
    · obtain ⟨text, rfl⟩ := herror
      rw [mark_infix_error text tail htail]
      constructor
      · rintro rfl
        rfl
      · intro hsome
        cases hsome
        rfl
    · refine iff_of_false (hfree ?_) ?_
      · exact quote_notMem_reason hreason fun text htext => herror ⟨text, htext⟩
      · intro hsome
        exact herror ⟨"no", Option.some.inj hsome⟩

/-- An outcome without a revert in its description has no reason in its data. -/
theorem reason?_of_revertPart_eq_none {o : Outcome} (h : o.revertPart? = none) :
    Revert.reason? o.returnData = none := by
  unfold Outcome.revertPart? at h
  split at h
  · rename_i hdata
    rw [hdata, Revert.reason?, if_pos (by decide)]
  · cases h

/-! ## The whole text -/

/-- In parentheses behind a message, the mark does not stand in the summary of internal transactions. -/
theorem not_mark_infix_summary {ts : List InternalTransaction} {s : String}
    (h : InternalTransaction.summary? ts = some s) {front : List Char} (hfront : 'E' ∉ front) :
    ¬mark <:+: front ++ (s.toList ++ [')']) := by
  intro hmark
  have hsummary := opening_infix_mark.trans ((infix_append_iff_of_head hfront).mp hmark)
  rcases (infix_append_cons_iff (show ')' ∉ opening by decide)).mp hsummary with hleft | hright
  · exact not_opening_summary h hleft
  · exact absurd hright (by decide)

/-- The mark stands in the text about a failure where it stands in the node's message or the revert data says `no`. -/
theorem mark_infix_describe (o : Outcome) : mark <:+: o.describe.toList ↔
    mark <:+: (o.messageText?.getD Revert.defaultMessage).toList ∨
    Revert.reason? o.returnData = some (.error (some "no")) := by
  have hspace : ' ' ∉ mark := by decide
  have hsemicolon : ';' ∉ mark := by decide
  have hopen : 'E' ∉ ['('] := by decide
  unfold Outcome.describe
  dsimp only
  -- the mark holds neither a blank nor a semicolon, so it cannot straddle the description's parts
  generalize o.messageText?.getD Revert.defaultMessage = message
  split
  · rename_i reverted internal hreverted hinternal
    have hchars : (message ++ " (" ++ reverted ++ "; " ++ internal ++ ")").toList =
        message.toList ++ ' ' :: (('(' :: reverted.toList) ++ ';' :: ([' '] ++ (internal.toList ++ [')']))) := by
      simp
    have hrevert := mark_infix_revertPart hreverted [] (by decide)
    rw [List.append_nil] at hrevert
    have hnone := not_mark_infix_summary hinternal (show 'E' ∉ [' '] by decide)
    change mark <:+: (message ++ " (" ++ reverted ++ "; " ++ internal ++ ")").toList ↔ _
    rw [hchars, infix_append_cons_iff hspace, infix_append_cons_iff hsemicolon, or_iff_left hnone, ← hrevert]
    exact or_congr_right (infix_append_iff_of_head hopen)
  · rename_i reverted hreverted _
    have hchars : (message ++ " (" ++ reverted ++ ")").toList =
        message.toList ++ ' ' :: (['('] ++ (reverted.toList ++ [')'])) := by
      simp
    change mark <:+: (message ++ " (" ++ reverted ++ ")").toList ↔ _
    rw [hchars, infix_append_cons_iff hspace, ← mark_infix_revertPart hreverted [')'] (by decide)]
    exact or_congr_right (infix_append_iff_of_head hopen)
  · rename_i internal hreverted hinternal
    have hchars : (message ++ " (" ++ internal ++ ")").toList =
        message.toList ++ ' ' :: (['('] ++ (internal.toList ++ [')'])) := by
      simp
    have hnone := not_mark_infix_summary hinternal hopen
    change mark <:+: (message ++ " (" ++ internal ++ ")").toList ↔ _
    rw [hchars, infix_append_cons_iff hspace, or_iff_left hnone, reason?_of_revertPart_eq_none hreverted]
    exact (or_iff_left nofun).symm
  · rename_i hreverted _
    rw [reason?_of_revertPart_eq_none hreverted]
    exact (or_iff_left nofun).symm

/-- The mark stands in the message that is told where it stands in the text of the node's own. -/
theorem mark_infix_message (o : Outcome) : mark <:+: (o.messageText?.getD Revert.defaultMessage).toList ↔
    ∃ m text, o.message = some m ∧ Says m text ∧ contains text Relayer.tipMismatchMark = true := by
  have hempty : ¬contains (hexText "") Relayer.tipMismatchMark = true := by
    have hmessage : hexText "" = "" := says_iff.mp (says_encode "")
    rw [hmessage, contains, occurs_iff_infix, toList_tipMismatchMark]
    exact not_infix_of_notMem (show '"' ∈ mark by decide) (by decide)
  have hdefault : ¬mark <:+: Revert.defaultMessage.toList :=
    not_infix_of_notMem (show '"' ∈ mark by decide) (by decide)
  unfold Outcome.messageText?
  simp only [says_iff]
  cases o.message with
  | none => exact iff_of_false hdefault nofun
  | some m =>
    simp only [Option.some.injEq, exists_and_left, exists_eq_left']
    split
    · rename_i h
      rw [h]
      exact iff_of_false hdefault hempty
    · rw [Option.getD_some, contains, occurs_iff_infix, toList_tipMismatchMark]

end MarkAux

open MarkAux

/-- Whether the first thing that a call returned is the revert with the text `no`. -/
def Outcome.RevertedWithNo (o : Outcome) : Prop :=
  ∃ first later arguments,
    o.contractResult = first :: later ∧ Hex.decode first = .ok (Revert.errorSelector ++ arguments) ∧
    Abi.textOf arguments 0 = .ok "no"

/-- Data is an error with a text exactly when the selector of `Error` stands before an argument that reads as the text.
-/
theorem Revert.reason?_eq_error_iff {data : Bytes} {text : String} : reason? data = some (.error (some text)) ↔
    ∃ arguments, data = errorSelector ++ arguments ∧ Abi.textOf arguments 0 = .ok text := by
  constructor
  · intro h
    obtain ⟨reason, hreason⟩ : ∃ reason, reason = Reason.error (some text) := ⟨_, rfl⟩
    rw [← hreason] at h
    cases tells_of_reason? h with
    | error hselector =>
      refine ⟨data.drop 4, by rw [← hselector, List.take_append_drop], ?_⟩
      exact Result.toOption_eq_some.mp (Reason.error.inj hreason)
    | panic => nomatch hreason
    | custom => nomatch hreason
  · rintro ⟨arguments, rfl, htext⟩
    rw [reason?_errorSelector, htext]
    rfl

/-- The reason is the error with the text of the tip assertion exactly when the outcome has reverted with it. -/
theorem Outcome.revertedWithNo_iff (o : Outcome) :
    Revert.reason? o.returnData = some (.error (some "no")) ↔ o.RevertedWithNo := by
  rw [Revert.reason?_eq_error_iff]
  unfold Outcome.RevertedWithNo Outcome.returnData
  constructor
  · rintro ⟨arguments, hdata, htext⟩
    split at hdata
    · nomatch hdata
    · rename_i first later hresult
      refine ⟨first, later, arguments, hresult, ?_, htext⟩
      cases hdecode : Hex.decode first with
      | ok data =>
        rw [hdecode] at hdata
        exact congrArg Except.ok hdata
      | error e =>
        rw [hdecode] at hdata
        nomatch hdata
  · rintro ⟨first, later, arguments, hresult, hdecode, htext⟩
    refine ⟨arguments, ?_, htext⟩
    rw [hresult]
    dsimp only
    rw [hdecode]
    rfl

/-- A failure on chain is taken for a lost race exactly if what the node's message says holds the mark, or the call
reverted with the text `no`. -/
theorem Relayer.isTipMismatch_describe (txid : String) (o : Outcome) :
    isTipMismatch (.executionFailed txid o.describe) = true ↔
      (∃ m text, o.message = some m ∧ Says m text ∧ contains text tipMismatchMark = true) ∨ o.RevertedWithNo := by
  rw [isTipMismatch, contains, occurs_iff_infix, toList_tipMismatchMark, mark_infix_describe, mark_infix_message,
    o.revertedWithNo_iff]

/-! ## Reverts with a text -/

/-- The outcome of a transaction that has reverted with data. -/
def Outcome.reverted (txid : String) (block : UInt64) (data : Bytes) : Outcome :=
  { id := txid, blockNumber := block, contractResult := [Hex.encode data], result := some "FAILED"
    message := some (Hex.encode (Utf8.encode "REVERT opcode executed")) }

/-- A revert is a failure. -/
theorem Outcome.isFailed_reverted (txid : String) (block : UInt64) (data : Bytes) :
    (reverted txid block data).isFailed = true := rfl

/-- A revert with the encoding of `no` is one with that text. -/
theorem Outcome.revertedWithNo_reverted (txid : String) (block : UInt64) :
    (reverted txid block (Revert.errorData "no")).RevertedWithNo := by
  have hlength : (Utf8.encode "no").length < Word.count := by decide
  exact ⟨_, [], _, rfl, Hex.decode_encode _, Revert.textOf_encoded hlength⟩

/-! ## Failures on chain -/

namespace Relayer

open Dialogue

/-- When a transaction has failed on chain, its failure is taken for a lost race exactly if what the node's message says
holds the mark, or the call reverted with the text `no`. -/
theorem failure_marked_iff {settings : ConfirmSettings} {txid : String} {front : List Node.Exchange} {pause : Nat}
    {found : Outcome} {res : Except Failure Unit}
    (h : Transcript (Node.waitFor settings txid).run (front ++ [⟨.outcome txid pause, .ok (some found)⟩]) res)
    (hfailed : found.isFailed = true) :
    ∃ message, res = .error (.executionFailed txid message) ∧ (isTipMismatch (.executionFailed txid message) = true ↔
      (∃ m text, found.message = some m ∧ Says m text ∧ contains text tipMismatchMark = true) ∨
        found.RevertedWithNo) := by
  refine ⟨found.describe, ?_, isTipMismatch_describe txid found⟩
  rw [Node.transcript_waitFor_found h, if_pos hfailed]

/-- An outcome with a forged mark: it stands in a note and in an extra text. -/
def forgedOutcome : Outcome :=
  { result := some "FAILED", internal := [{ note := "Error(\"no\")", extra := "Error(\"no\")", rejected := true }] }

/-- An outcome whose message has the mark in it, in hexadecimal digits. -/
def markedOutcome : Outcome :=
  { result := some "FAILED", message := some (Hex.encode (Utf8.encode "REVERT: Error(\"no\")")) }

/-- A failure that is found by the first of three lookups. -/
theorem transcript_waitFor_failed {o : Outcome} (h : o.isFailed = true) :
    Transcript (Node.waitFor ⟨150000000, 3, 5⟩ "00").run ([] ++ [⟨.outcome "00" 0, .ok (some o)⟩])
      (.error (.executionFailed "00" o.describe)) := by
  refine .ask ?_
  show Transcript (ExceptT.run
    (if o.isFailed then throw (Failure.executionFailed "00" o.describe) else pure ())) _ _
  rw [h]
  exact .done _

/-- The forged mark is not taken for a lost race, and the one in the node's message is. -/
theorem failure_marked_iff_sample :
    Transcript (Node.waitFor ⟨150000000, 3, 5⟩ "00").run ([] ++ [⟨.outcome "00" 0, .ok (some forgedOutcome)⟩])
        (.error (.executionFailed "00" forgedOutcome.describe)) ∧
      forgedOutcome.isFailed = true ∧ isTipMismatch (.executionFailed "00" forgedOutcome.describe) = false ∧
    Transcript (Node.waitFor ⟨150000000, 3, 5⟩ "00").run ([] ++ [⟨.outcome "00" 0, .ok (some markedOutcome)⟩])
        (.error (.executionFailed "00" markedOutcome.describe)) ∧
      markedOutcome.isFailed = true ∧ isTipMismatch (.executionFailed "00" markedOutcome.describe) = true := by
  have hforged : forgedOutcome.isFailed = true := by decide
  have hmarked : markedOutcome.isFailed = true := by decide
  refine ⟨transcript_waitFor_failed hforged, hforged, ?_, transcript_waitFor_failed hmarked, hmarked, ?_⟩
  · obtain ⟨message, hmessage, hiff⟩ := failure_marked_iff (transcript_waitFor_failed hforged) hforged
    cases hmessage
    rw [← Bool.not_eq_true, hiff]
    rintro (⟨m, text, hm, -⟩ | ⟨first, later, arguments, hresult, -⟩)
    · nomatch hm
    · nomatch hresult
  · obtain ⟨message, hmessage, hiff⟩ := failure_marked_iff (transcript_waitFor_failed hmarked) hmarked
    cases hmessage
    exact hiff.mpr (Or.inl ⟨_, _, rfl, says_encode _, by decide⟩)

end Relayer

end CheckpointRelay
