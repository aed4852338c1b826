import CheckpointRelay.Proofs.Json.Number

/-!
# Every value in range reads back

`Readable` lists the values that the reader does not refuse when it finds them written: integers of sixty-four bits,
reals in the range of a double, and tables with different names, nested no deeper than is allowed. Such a value reads
back from its text (`parseBytes_render_of_readable`).
-/

namespace CheckpointRelay.Json

open Text

/-- What the reader accepts where `depth` levels of nesting are allowed. -/
inductive Readable : (depth : Nat) → Tree → Prop
  | null (depth : Nat) : Readable depth .null
  | bool (depth : Nat) (b : Bool) : Readable depth (.bool b)
  | integer (depth : Nat) {n : Int} (hlow : Int64.minValue.toInt ≤ n) (hhigh : n < UInt64.size) :
      Readable depth (.integer n)
  | real (depth : Nat) {n : Numeral} {text : String} (hn : n.WellFormed) (htree : n.tree = .ok (.real text)) :
      Readable depth (.real text)
  | text (depth : Nat) (s : String) : Readable depth (.text s)
  | list {depth : Nat} {items : List Tree} (hitems : ∀ item ∈ items, Readable depth item) :
      Readable (depth + 1) (.list items)
  | table {depth : Nat} {members : List (String × Tree)} (hnames : (members.map (·.1)).Nodup)
      (hvalues : ∀ m ∈ members, Readable depth m.2) : Readable (depth + 1) (.table members)

/-! ## Scalars -/

section

variable {depth : Nat} {first : Char} {rest : List Char} {t : Tree}

/-- What follows the first letter of a word is read up to its end. -/
theorem reads_readWord (later : String) (value : Tree) (first : Char) (rest : List Char) :
    Reads (readWord later value first (later.toList ++ rest)) value rest := by
  have hprefix : later.toList.isPrefixOf (later.toList ++ rest) = true :=
    List.isPrefixOf_iff_prefix.mpr (List.prefix_append _ _)
  rw [readWord, if_pos hprefix]
  exact reads_ok rfl List.drop_left

/-- A value that starts with none of a quote, a bracket, a brace and a blank is a scalar. -/
theorem reads_readValue_scalar {later : List Char} (hblank : isBlank first = false)
    (hfirst : first ∉ ['"', '[', '\x7b']) (hscalar : Reads (readScalar first later) t rest) :
    Reads (readValue depth (first :: later)) t rest := by
  obtain ⟨hquote, hbracket, hbrace⟩ : first ≠ '"' ∧ first ≠ '[' ∧ first ≠ '\x7b' := by simpa using hfirst
  obtain ⟨_, hmark⟩ := readMark_cons hblank later
  obtain ⟨_, hscalar⟩ := hscalar
  rw [readValue, hmark, Result.ok_bind]
  dsimp only
  rw [if_neg hquote, if_neg hbracket, if_neg hbrace, hscalar, Result.ok_bind]
  exact reads_ok rfl rfl

/-- The null is read back. -/
theorem readsInPlace_null : ReadsInPlace depth .null := by
  intro rest _
  exact reads_readValue_scalar (by decide) (by decide) (reads_readWord "ull" .null 'n' rest)

/-- A truth value is read back. -/
theorem readsInPlace_bool (b : Bool) : ReadsInPlace depth (.bool b) := by
  intro rest _
  cases b with
  | true => exact reads_readValue_scalar (by decide) (by decide) (reads_readWord "rue" (.bool true) 't' rest)
  | false => exact reads_readValue_scalar (by decide) (by decide) (reads_readWord "alse" (.bool false) 'f' rest)

/-- A digit starts none of the other values. -/
theorem ne_of_isDigit (h : isDigit first = true) :
    isBlank first = false ∧ first ∉ ['"', '[', '\x7b'] ∧ first ∉ ['n', 't', 'f', '-'] := by
  have hnone : [' ', '\t', '\n', '\r', '"', '[', '\x7b', 'n', 't', 'f', '-'].any isDigit = false := by decide
  have hne : ∀ c ∈ [' ', '\t', '\n', '\r', '"', '[', '\x7b', 'n', 't', 'f', '-'], first ≠ c := by
    rintro c hc rfl
    exact List.any_eq_false.mp hnone first hc h
  simp only [List.forall_mem_cons] at hne
  simp [isBlank, hne]

/-- A number is read from its parts. -/
theorem readsInPlace_numeral {n : Numeral} (hn : n.WellFormed) (ht : n.tree = .ok t) (hrest : Ends rest) :
    Reads (readValue depth (n.chars ++ rest)) t rest := by
  have hread := reads_readNumber hn ht hrest
  cases hsign : n.negative with
  | true =>
    rw [hsign] at hread
    have hchars : n.chars ++ rest = '-' :: (n.unsigned ++ rest) := by simp [Numeral.chars, hsign]
    obtain ⟨_, hread⟩ := hread
    rw [hchars]
    refine reads_readValue_scalar (by decide) (by decide) ?_
    have hscalar : readScalar '-' (n.unsigned ++ rest) =
        (readNumber true (n.unsigned ++ rest)).map (·.behind '-') := rfl
    rw [hscalar, hread]
    exact reads_ok rfl rfl
  | false =>
    rw [hsign] at hread
    obtain ⟨d, digits, hwhole⟩ := List.exists_cons_of_ne_nil hn.whole.1
    have hd : isDigit d = true := hn.whole.2 d (hwhole ▸ List.mem_cons_self)
    obtain ⟨hblank, hfirst, hother⟩ := ne_of_isDigit hd
    obtain ⟨hnull, htrue, hfalse, hminus⟩ : d ≠ 'n' ∧ d ≠ 't' ∧ d ≠ 'f' ∧ d ≠ '-' := by simpa using hother
    obtain ⟨later, hlater⟩ : ∃ later, n.unsigned ++ rest = d :: later := by
      rw [Numeral.unsigned, hwhole]
      exact ⟨_, rfl⟩
    have hchars : n.chars ++ rest = n.unsigned ++ rest := by simp [Numeral.chars, hsign]
    rw [hlater] at hread
    rw [hchars, hlater]
    refine reads_readValue_scalar hblank hfirst ?_
    rw [readScalar, if_neg hnull, if_neg htrue, if_neg hfalse, if_neg hminus]
    exact hread

/-- An integer that fits sixty-four bits is read back. -/
theorem readsInPlace_integer {n : Int} (hlow : Int64.minValue.toInt ≤ n) (hhigh : n < UInt64.size) :
    ReadsInPlace depth (.integer n) := by
  intro rest hrest
  have hchars : renderChars (.integer n) = (Numeral.ofInt n).chars := by rw [Numeral.chars_ofInt, renderChars]
  rw [hchars]
  exact readsInPlace_numeral (Numeral.wellFormed_ofInt n) (Numeral.tree_ofInt hlow hhigh) hrest

/-- A real is the text of its numeral. -/
theorem Numeral.eq_realText_of_tree {n : Numeral} {text : String} (h : n.tree = .ok (.real text)) :
    text = realText n.negative n.whole n.fraction n.exponent := by
  unfold tree numberTree at h
  dsimp only at h
  split at h
  · split at h
    · nomatch h
    · exact (Tree.real.inj (Except.ok.inj h)).symm
  · nomatch h

/-- A number kept by its text is read back as that text. -/
theorem readsInPlace_real {n : Numeral} {text : String} (hn : n.WellFormed) (htree : n.tree = .ok (.real text)) :
    ReadsInPlace depth (.real text) := by
  intro rest hrest
  have hchars : renderChars (.real text) = n.chars := by
    rw [renderChars, n.eq_realText_of_tree htree, n.toList_realText]
  rw [hchars]
  exact readsInPlace_numeral hn htree hrest

/-! ## Lists -/

/-- Items are read up to the bracket that ends them. -/
theorem readItems_render {items : List Tree} (hne : items ≠ []) (hitems : ∀ item ∈ items, ReadsInPlace depth item)
    (rest : List Char) :
    Reads (readItems depth (renderItems items ++ ']' :: rest)) items rest := by
  -- the last item is closed by the bracket and every other one by a comma
  induction items with
  | nil => exact absurd rfl hne
  | cons item items ih =>
    have hitem := hitems item List.mem_cons_self
    cases items with
    | nil =>
      have hchars : renderItems [item] ++ ']' :: rest = renderChars item ++ ']' :: rest := by simp [renderItems]
      obtain ⟨_, hvalue⟩ := hitem (']' :: rest) (ends_cons (by decide))
      obtain ⟨_, hmark⟩ := readMark_cons (show isBlank ']' = false by decide) rest
      rw [hchars, readItems, hvalue, Result.ok_bind]
      dsimp only
      rw [hmark, Result.ok_bind]
      dsimp only
      rw [if_neg (by decide), if_pos rfl]
      exact reads_ok rfl rfl
    | cons next items =>
      have hchars : renderItems (item :: next :: items) ++ ']' :: rest =
          renderChars item ++ ',' :: (renderItems (next :: items) ++ ']' :: rest) := by simp [renderItems]
      obtain ⟨_, hvalue⟩ := hitem (',' :: (renderItems (next :: items) ++ ']' :: rest)) (ends_cons (by decide))
      obtain ⟨_, hmark⟩ :=
        readMark_cons (show isBlank ',' = false by decide) (renderItems (next :: items) ++ ']' :: rest)
      obtain ⟨_, hlater⟩ := ih (List.cons_ne_nil _ _) fun item' hitem' => hitems item' (List.mem_cons_of_mem _ hitem')
      rw [hchars, readItems, hvalue, Result.ok_bind]
      dsimp only
      rw [hmark, Result.ok_bind]
      dsimp only
      rw [if_pos rfl, hlater, Result.ok_bind]
      exact reads_ok rfl rfl

/-- No value starts with the bracket that ends a list. -/
theorem readMark_of_reads {input : List Char} (h : Reads (readValue depth input) t rest) :
    ∃ c later, Reads (readMark input) c later ∧ c ≠ ']' := by
  obtain ⟨shorter, h⟩ := h
  rw [readValue] at h
  obtain ⟨mark, hmark, hvalue⟩ := Result.bind_eq_ok.mp h
  refine ⟨mark.value, mark.rest, ⟨mark.shorter, hmark⟩, fun hbracket => ?_⟩
  have hscalar : readScalar ']' mark.rest = .error .unexpected := rfl
  dsimp only at hvalue
  rw [hbracket, if_neg (by decide), if_neg (by decide), if_neg (by decide), hscalar] at hvalue
  cases hvalue

/-- A list without items reads back. -/
theorem readsBack_emptyList (depth : Nat) : ReadsBack (depth + 1) (.list []) := by
  intro rest
  have hchars : renderChars (.list []) ++ rest = '[' :: ']' :: rest := by simp [renderChars, renderItems]
  obtain ⟨_, hbracket⟩ := readMark_cons (show isBlank '[' = false by decide) (']' :: rest)
  obtain ⟨_, hend⟩ := readMark_cons (show isBlank ']' = false by decide) rest
  rw [hchars, readValue, hbracket, Result.ok_bind]
  dsimp only
  rw [if_neg (by decide), if_pos rfl, if_neg (Nat.succ_ne_zero depth), hend, Result.ok_bind]
  dsimp only
  rw [if_pos rfl]
  exact reads_ok rfl rfl

/-- A list reads back, if its items do. -/
theorem readsBack_list {items : List Tree} (hne : items ≠ []) (hitems : ∀ item ∈ items, ReadsInPlace depth item) :
    ReadsBack (depth + 1) (.list items) := by
  intro rest
  have hchars : renderChars (.list items) ++ rest = '[' :: (renderItems items ++ ']' :: rest) := by simp [renderChars]
  obtain ⟨_, hbracket⟩ := readMark_cons (show isBlank '[' = false by decide) (renderItems items ++ ']' :: rest)
  obtain ⟨_, hall⟩ := readItems_render hne hitems rest
  obtain ⟨c, later, ⟨_, hnext⟩, hc⟩ :
      ∃ c later, Reads (readMark (renderItems items ++ ']' :: rest)) c later ∧ c ≠ ']' := by
    have hfirst := hall
    rw [readItems] at hfirst
    obtain ⟨v, hv, -⟩ := Result.bind_eq_ok.mp hfirst
    exact readMark_of_reads ⟨v.shorter, hv⟩
  rw [hchars, readValue, hbracket, Result.ok_bind]
  dsimp only
  rw [if_neg (by decide), if_pos rfl, if_neg (Nat.succ_ne_zero depth), Nat.add_sub_cancel, hnext, Result.ok_bind]
  dsimp only
  rw [if_neg hc, hall]
  exact reads_ok rfl rfl

/-- A table without members reads back. -/
theorem readsBack_emptyTable (depth : Nat) : ReadsBack (depth + 1) (.table []) := by
  intro rest
  have hchars : renderChars (.table []) ++ rest = '\x7b' :: '\x7d' :: rest := by simp [renderChars, renderMembers]
  obtain ⟨_, hbrace⟩ := readMark_cons (show isBlank '\x7b' = false by decide) ('\x7d' :: rest)
  obtain ⟨_, hend⟩ := readMark_cons (show isBlank '\x7d' = false by decide) rest
  rw [hchars, readValue, hbrace, Result.ok_bind]
  dsimp only
  rw [if_neg (by decide), if_neg (by decide), if_pos rfl, if_neg (Nat.succ_ne_zero depth), hend, Result.ok_bind]
  dsimp only
  rw [if_pos rfl]
  exact reads_ok rfl rfl

end

/-- Whatever the reader accepts is read where it stands, by induction over the value. -/
theorem Readable.readsInPlace {depth : Nat} {t : Tree} (h : Readable depth t) : ReadsInPlace depth t := by
  induction h with
  | null depth => exact readsInPlace_null
  | bool depth b => exact readsInPlace_bool b
  | integer depth hlow hhigh => exact readsInPlace_integer hlow hhigh
  | real depth hn htree => exact readsInPlace_real hn htree
  | text depth s => exact (readsBack_text depth s).inPlace
  | @list depth items _ ih =>
    by_cases hne : items = []
    · exact hne ▸ (readsBack_emptyList depth).inPlace
    · exact (readsBack_list hne ih).inPlace
  | @table depth members hnames _ ih =>
    by_cases hne : members = []
    · exact hne ▸ (readsBack_emptyTable depth).inPlace
    · exact (readsBack_table hne hnames ih).inPlace

/-- Whatever the reader accepts is read from its own text. -/
theorem parseBytes_render_of_readable {t : Tree} (h : Readable 127 t) : parseBytes (Utf8.encode (render t)) = .ok t :=
  parseBytes_render h.readsInPlace

end CheckpointRelay.Json
