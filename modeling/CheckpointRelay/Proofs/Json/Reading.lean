import CheckpointRelay.Json.Parser
import CheckpointRelay.Json.Printer
import CheckpointRelay.Proofs.Result
import CheckpointRelay.Proofs.Text.Utf8

/-!
# JSON reads back

What is written is read again from the front of any input that it starts: the inside of a text character by character,
whichever way a character is escaped, and then whole texts and tables of them.
-/

namespace CheckpointRelay.Json

open Text

/-- A reader gives a value and leaves the rest. -/
def Reads {α : Type} {input : List Char} (r : Except Error (Scanned input α)) (value : α) (rest : List Char) : Prop :=
  ∃ shorter, r = .ok ⟨value, rest, shorter⟩

/-! ## Texts -/

/-- The two digits of a control character are digits, and their number is that of the character. -/
theorem quad_of_lt {n : Nat} (h : n < 32) :
    isHexDigit (hexDigit (n / 16)) = true ∧ isHexDigit (hexDigit (n % 16)) = true ∧
      numberOf 16 ['0', '0', hexDigit (n / 16), hexDigit (n % 16)] = n := by
  have key : ∀ n : Fin 32, isHexDigit (hexDigit (n.val / 16)) = true ∧ isHexDigit (hexDigit (n.val % 16)) = true ∧
      numberOf 16 ['0', '0', hexDigit (n.val / 16), hexDigit (n.val % 16)] = n.val := by
    decide
  exact key ⟨n, h⟩

/-- A control character is read from the number that is written for it. -/
theorem readUnicode_control {c : Char} (h : c.toNat < 32) (rest : List Char) :
    Reads (readUnicode ('0' :: '0' :: hexDigit (c.toNat / 16) :: hexDigit (c.toNat % 16) :: rest)) c rest := by
  obtain ⟨hhigh, hlow, hvalue⟩ := quad_of_lt h
  have hzero : isHexDigit '0' = true := by decide
  have hplain : isHighSurrogate c.toNat = false ∧ isLowSurrogate c.toNat = false := by
    unfold isHighSurrogate isLowSurrogate
    simp only [Bool.and_eq_false_iff, decide_eq_false_iff_not]
    omega
  refine ⟨by grind, ?_⟩
  unfold readUnicode readQuad
  simp only [hzero, hhigh, hlow, Bool.and_self, if_true, Result.ok_bind, Scanned.behind, Scanned.single, hvalue,
    hplain.1, hplain.2, Bool.false_eq_true, if_false, Scanned.map, Char.ofNat_toNat]
  rfl

/-- Inside a text a character is written by the letter of an escape or by its number, or it stands for itself. -/
theorem jsonEscaped_cases (c : Char) :
    (∃ letter, jsonEscaped c = ['\\', letter] ∧ letter ≠ 'u' ∧ escapeLetter? letter = some c) ∨
      (jsonEscaped c = ['\\', 'u', '0', '0', hexDigit (c.toNat / 16), hexDigit (c.toNat % 16)] ∧ c.toNat < 32) ∨
      (jsonEscaped c = [c] ∧ c ≠ '"' ∧ c ≠ '\\' ∧ ¬c.toNat < 32) := by
  unfold jsonEscaped
  repeat' split
  any_goals
    rename_i h
    subst h
    exact .inl ⟨_, rfl, by decide, rfl⟩
  · rename_i hcontrol
    exact .inr (.inl ⟨rfl, hcontrol⟩)
  · rename_i hquote hbackslash _ _ _ _ _ hcontrol
    exact .inr (.inr ⟨rfl, hquote, hbackslash, hcontrol⟩)

/-- A character is read from what is written for it inside a text. -/
theorem readInside_jsonEscaped (c : Char) (rest : List Char) :
    Reads (readInside (jsonEscaped c ++ rest)) (some c) rest := by
  obtain ⟨letter, hescaped, hletter, hmeaning⟩ | ⟨hescaped, hcontrol⟩ | ⟨hescaped, hquote, hbackslash, hcontrol⟩ :=
    jsonEscaped_cases c
  · rw [hescaped]
    refine ⟨by grind, ?_⟩
    simp only [List.cons_append, List.nil_append, readInside, readEscape, if_neg hletter, hmeaning]
    rfl
  · rw [hescaped]
    obtain ⟨_, hread⟩ := readUnicode_control hcontrol rest
    refine ⟨by grind, ?_⟩
    simp only [List.cons_append, List.nil_append, readInside, readEscape, hread]
    rfl
  · rw [hescaped]
    refine ⟨Nat.lt_succ_self _, ?_⟩
    simp only [List.singleton_append, readInside, if_neg hquote, if_neg hbackslash, if_neg hcontrol]
    rfl

/-- The inside of a text is read up to the quote that ends it. -/
theorem readText_jsonEscaped (cs rest : List Char) :
    Reads (readText (cs.flatMap jsonEscaped ++ '"' :: rest)) cs rest := by
  induction cs with
  | nil =>
    have hend : readText ('"' :: rest) = .ok ⟨[], rest, Nat.lt_succ_self _⟩ := by
      rw [readText]
      rfl
    exact ⟨Nat.lt_succ_self _, hend⟩
  | cons c cs ih =>
    obtain ⟨shorterFirst, hfirst⟩ := readInside_jsonEscaped c (cs.flatMap jsonEscaped ++ '"' :: rest)
    obtain ⟨shorter, hrest⟩ := ih
    rw [List.flatMap_cons, List.append_assoc]
    refine ⟨Nat.lt_trans shorter shorterFirst, ?_⟩
    rw [readText, hfirst, Result.ok_bind]
    dsimp only
    rw [hrest]
    rfl

/-! ## Values -/

/-- A value is read again from its own characters, whatever follows them. -/
def ReadsBack (depth : Nat) (t : Tree) : Prop :=
  ∀ rest, Reads (readValue depth (renderChars t ++ rest)) t rest

/-- The input ends, or goes on with what may follow a value in a list or a table. -/
def Ends (rest : List Char) : Prop :=
  ∀ c ∈ rest.head?, c = ',' ∨ c = ']' ∨ c = '\x7d'

/-- A value is read again from its own characters where it can stand: a number would go on with what follows
otherwise. -/
def ReadsInPlace (depth : Nat) (t : Tree) : Prop :=
  ∀ rest, Ends rest → Reads (readValue depth (renderChars t ++ rest)) t rest

/-- A value that is read again whatever follows it is read again where it can stand. -/
theorem ReadsBack.inPlace {depth : Nat} {t : Tree} (h : ReadsBack depth t) : ReadsInPlace depth t :=
  fun rest _ => h rest

/-- A value at the end of the text has ended. -/
theorem ends_nil : Ends [] := nofun

/-- A value before a comma or a closing bracket has ended. -/
theorem ends_cons {c : Char} {rest : List Char} (h : c = ',' ∨ c = ']' ∨ c = '\x7d') : Ends (c :: rest) := by
  rintro _ ⟨⟩
  exact h

/-- The first character and what stands behind it are the text. -/
theorem first?_eq_some {cs : List Char} {mark : Scanned cs Char} (h : Scanned.first? cs = some mark) :
    cs = mark.value :: mark.rest := by
  cases cs with
  | nil => nomatch h
  | cons c cs =>
    cases h
    rfl

/-- The next mark is the first character that is no blank. -/
theorem readMark_of_skipBlanks {input rest : List Char} {c : Char} (h : skipBlanks input = c :: rest) :
    Reads (readMark input) c rest := by
  unfold readMark
  split
  · rename_i mark hmark
    obtain ⟨value, later, shorter⟩ := mark
    cases h.symm.trans (first?_eq_some hmark)
    exact ⟨_, rfl⟩
  · rename_i hnone
    rw [h] at hnone
    nomatch hnone

/-- A character that is no blank is the next mark. -/
theorem readMark_cons {c : Char} (h : isBlank c = false) (rest : List Char) : Reads (readMark (c :: rest)) c rest :=
  readMark_of_skipBlanks (List.dropWhile_cons_of_neg (Bool.not_eq_true _ ▸ h))

/-- An expected mark that comes next is read. -/
theorem readMarkOf_cons {c : Char} (h : isBlank c = false) (rest : List Char) :
    Reads (readMarkOf c (c :: rest)) c rest := by
  obtain ⟨shorter, hmark⟩ := readMark_cons h rest
  refine ⟨shorter, ?_⟩
  rw [readMarkOf, hmark, Result.ok_bind, if_pos rfl]
  rfl

/-- The name of a member is read from the text that is written for it. -/
theorem readName_literal (name : String) (rest : List Char) :
    Reads (readName (jsonLiteralChars name.toList ++ rest)) name rest := by
  have hliteral : jsonLiteralChars name.toList ++ rest = '"' :: (name.toList.flatMap jsonEscaped ++ '"' :: rest) := by
    simp [jsonLiteralChars]
  obtain ⟨shorterQuote, hquote⟩ :=
    readMarkOf_cons (show isBlank '"' = false by decide) (name.toList.flatMap jsonEscaped ++ '"' :: rest)
  obtain ⟨shorter, htext⟩ := readText_jsonEscaped name.toList rest
  rw [hliteral]
  refine ⟨Nat.lt_trans shorter shorterQuote, ?_⟩
  rw [readName, hquote, Result.ok_bind]
  dsimp only
  rw [htext]
  simp only [Result.ok_bind, Scanned.andThen, String.ofList_toList]
  rfl

/-- A text reads back. -/
theorem readsBack_text (depth : Nat) (s : String) : ReadsBack depth (.text s) := by
  intro rest
  have hliteral : renderChars (.text s) ++ rest = '"' :: (s.toList.flatMap jsonEscaped ++ '"' :: rest) := by
    simp [renderChars, jsonLiteralChars]
  obtain ⟨shorterQuote, hquote⟩ :=
    readMark_cons (show isBlank '"' = false by decide) (s.toList.flatMap jsonEscaped ++ '"' :: rest)
  obtain ⟨shorter, htext⟩ := readText_jsonEscaped s.toList rest
  rw [hliteral]
  refine ⟨Nat.lt_trans shorter shorterQuote, ?_⟩
  rw [readValue, hquote, Result.ok_bind]
  dsimp only
  rw [if_pos rfl, htext]
  simp only [Result.ok_bind, Scanned.andThen, String.ofList_toList]
  rfl

/-! ## Tables -/

/-- The members of a table that are read after `earlier` ones. -/
def insertAll (earlier members : List (String × Tree)) : List (String × Tree) :=
  members.foldl (fun ms m => Tree.insert ms m.1 m.2) earlier

section

variable {depth : Nat} {earlier ms : List (String × Tree)} {input afterName afterColon afterValue rest last : List Char}
  {name : String} {value : Tree}

/-- A member in front of a comma is followed by the later members. -/
theorem readMembers_comma (hname : Reads (readName input) name afterName)
    (hcolon : Reads (readMarkOf ':' afterName) ':' afterColon)
    (hvalue : Reads (readValue depth afterColon) value afterValue) (hmark : Reads (readMark afterValue) ',' rest)
    (hlast : Reads (readMembers depth (Tree.insert earlier name value) rest) ms last) :
    Reads (readMembers depth earlier input) ms last := by
  obtain ⟨_, hname⟩ := hname
  obtain ⟨_, hcolon⟩ := hcolon
  obtain ⟨_, hvalue⟩ := hvalue
  obtain ⟨_, hmark⟩ := hmark
  obtain ⟨_, hlast⟩ := hlast
  rw [readMembers, hname, Result.ok_bind]
  dsimp only
  rw [hcolon, Result.ok_bind]
  dsimp only
  rw [hvalue, Result.ok_bind]
  dsimp only
  rw [hmark, Result.ok_bind]
  dsimp only
  rw [if_pos rfl, hlast]
  exact ⟨_, rfl⟩

/-- A member in front of a brace is the last one. -/
theorem readMembers_brace (hname : Reads (readName input) name afterName)
    (hcolon : Reads (readMarkOf ':' afterName) ':' afterColon)
    (hvalue : Reads (readValue depth afterColon) value afterValue) (hmark : Reads (readMark afterValue) '\x7d' rest) :
    Reads (readMembers depth earlier input) (Tree.insert earlier name value) rest := by
  obtain ⟨_, hname⟩ := hname
  obtain ⟨_, hcolon⟩ := hcolon
  obtain ⟨_, hvalue⟩ := hvalue
  obtain ⟨_, hmark⟩ := hmark
  rw [readMembers, hname, Result.ok_bind]
  dsimp only
  rw [hcolon, Result.ok_bind]
  dsimp only
  rw [hvalue, Result.ok_bind]
  dsimp only
  rw [hmark, Result.ok_bind]
  dsimp only
  rw [if_neg (by decide), if_pos rfl]
  exact ⟨_, rfl⟩

end

/-- Members are read up to the brace that ends them. -/
theorem readMembers_render {depth : Nat} (members : List (String × Tree)) (hne : members ≠ [])
    (hvalues : ∀ m ∈ members, ReadsInPlace depth m.2) (earlier : List (String × Tree)) (rest : List Char) :
    Reads (readMembers depth earlier (renderMembers members ++ '\x7d' :: rest)) (insertAll earlier members) rest := by
  -- as for items, with the members read so far kept aside: a name that comes again replaces the earlier value
  induction members generalizing earlier with
  | nil => exact absurd rfl hne
  | cons m members ih =>
    obtain ⟨name, value⟩ := m
    have hvalue := hvalues (name, value) List.mem_cons_self
    have hcolon : isBlank ':' = false := by decide
    cases members with
    | nil =>
      have hchars : renderMembers [(name, value)] ++ '\x7d' :: rest =
          jsonLiteralChars name.toList ++ ':' :: (renderChars value ++ '\x7d' :: rest) := by
        simp [renderMembers]
      rw [hchars]
      exact readMembers_brace (readName_literal name _) (readMarkOf_cons hcolon _) (hvalue _ (ends_cons (by decide)))
        (readMark_cons (by decide) rest)
    | cons m members =>
      have hchars : renderMembers ((name, value) :: m :: members) ++ '\x7d' :: rest =
          jsonLiteralChars name.toList ++
            ':' :: (renderChars value ++ ',' :: (renderMembers (m :: members) ++ '\x7d' :: rest)) := by
        simp [renderMembers]
      rw [hchars]
      refine readMembers_comma (readName_literal name _) (readMarkOf_cons hcolon _) (hvalue _ (ends_cons (by decide)))
        (readMark_cons (by decide) _) ?_
      exact ih (List.cons_ne_nil _ _) (fun m' hm' => hvalues m' (List.mem_cons_of_mem _ hm')) _

/-- A member of a new name goes to the end. -/
theorem insert_of_notMem {members : List (String × Tree)} {name : String} (h : name ∉ members.map (·.1))
    (value : Tree) :
    Tree.insert members name value = members ++ [(name, value)] := by
  have hother : ¬members.any (·.1 = name) = true := by
    intro hany
    obtain ⟨m, hm, hname⟩ := List.any_eq_true.mp hany
    exact h (of_decide_eq_true hname ▸ List.mem_map_of_mem hm)
  rw [Tree.insert, if_neg hother]

/-- Members of different names are kept in their order. -/
theorem insertAll_of_nodup (members earlier : List (String × Tree)) (h : ((earlier ++ members).map (·.1)).Nodup) :
    insertAll earlier members = earlier ++ members := by
  induction members generalizing earlier with
  | nil => exact (List.append_nil earlier).symm
  | cons m members ih =>
    have hnew : m.1 ∉ earlier.map (·.1) := by
      intro hmem
      rw [List.map_append, List.nodup_append] at h
      exact h.2.2 m.1 hmem m.1 List.mem_cons_self rfl
    have hsplit : earlier ++ m :: members = earlier ++ [m] ++ members := by simp
    rw [hsplit] at h
    rw [insertAll, List.foldl_cons, insert_of_notMem hnew, hsplit]
    exact ih (earlier ++ [m]) h

/-- The members of a table start with the quote of a name. -/
theorem renderMembers_eq_cons {members : List (String × Tree)} (hne : members ≠ []) :
    ∃ later, renderMembers members = '"' :: later := by
  match members with
  | [(name, value)] => simp [renderMembers, jsonLiteralChars]
  | (name, value) :: m :: members => simp [renderMembers, jsonLiteralChars]

/-- A table whose names differ from each other reads back, if its values do. -/
theorem readsBack_table {depth : Nat} {members : List (String × Tree)} (hne : members ≠ [])
    (hnames : (members.map (·.1)).Nodup) (hvalues : ∀ m ∈ members, ReadsInPlace depth m.2) :
    ReadsBack (depth + 1) (.table members) := by
  intro rest
  have hchars : renderChars (.table members) ++ rest = '\x7b' :: (renderMembers members ++ '\x7d' :: rest) := by
    simp [renderChars]
  obtain ⟨later, hlater⟩ := renderMembers_eq_cons hne
  have hnext : Reads (readMark (renderMembers members ++ '\x7d' :: rest)) '"' (later ++ '\x7d' :: rest) := by
    rw [hlater]
    exact readMark_cons (by decide) _
  have hmembers := readMembers_render members hne hvalues [] rest
  rw [insertAll_of_nodup members [] hnames, List.nil_append] at hmembers
  obtain ⟨_, hbrace⟩ := readMark_cons (show isBlank '\x7b' = false by decide) (renderMembers members ++ '\x7d' :: rest)
  obtain ⟨_, hnext⟩ := hnext
  obtain ⟨_, hmembers⟩ := hmembers
  rw [hchars, readValue, hbrace, Result.ok_bind]
  dsimp only
  rw [if_neg (by decide), if_neg (by decide), if_pos rfl, if_neg (Nat.succ_ne_zero depth), hnext, Result.ok_bind]
  dsimp only
  rw [if_neg (by decide), Nat.add_sub_cancel, hmembers]
  exact ⟨_, rfl⟩

/-- A value that reads in its place is read from its own text. -/
theorem parse_render {t : Tree} (h : ReadsInPlace 127 t) : parse (render t) = .ok t := by
  have hwhole : Reads (readValue 127 (renderChars t)) t [] := by
    have := h [] ends_nil
    rwa [List.append_nil] at this
  obtain ⟨_, hread⟩ := hwhole
  rw [parse, render, String.toList_ofList, parseChars, hread, Result.ok_bind]
  rfl

/-- A value that reads in its place is read from the octets of its own text. -/
theorem parseBytes_render {t : Tree} (h : ReadsInPlace 127 t) : parseBytes (Utf8.encode (render t)) = .ok t := by
  rw [parseBytes, Utf8.decode_encode]
  exact parse_render h

end CheckpointRelay.Json
