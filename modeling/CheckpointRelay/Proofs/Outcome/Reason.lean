import CheckpointRelay.Outcome.Diagnosis
import CheckpointRelay.Proofs.Abi.Reading
import CheckpointRelay.Proofs.Json.Reading
import Mathlib.Data.List.Nodup

/-!
# What the text about a revert tells

Revert data is told as an error with its reason, as a panic with its code, or by the name of a custom error; `Tells`
says which data tells what. What is told of each kind starts differently, a reason is quoted and a code is written in
digits, so no two of them have the same text (`Tells.eq_of_text`). The text about revert data therefore tells its
selector and what could be read behind it (`describe?_faithful`).
-/

namespace CheckpointRelay.Revert

/-- The selector is that of an error, of a panic or of a custom error in the table. -/
def IsKnown (selector : Bytes) : Prop :=
  selector = errorSelector ∨ selector = panicSelector ∨ ∃ e ∈ customErrors, selector = (Abi.selector e.1).bytes

/-- What revert data tells, by its selector. -/
inductive Tells (data : Bytes) : Reason → Prop
  | error (h : data.take 4 = errorSelector) : Tells data (.error (Abi.textOf (data.drop 4) 0).toOption)
  | panic (h : data.take 4 = panicSelector) : Tells data (.panic (Abi.uint256Of (data.drop 4) 0).toOption)
  | custom {e : String × String} (he : e ∈ customErrors) (h : data.take 4 = (Abi.selector e.1).bytes)
    (herror : data.take 4 ≠ errorSelector) (hpanic : data.take 4 ≠ panicSelector) : Tells data (.custom e.2)

/-- Two payloads agree in their selector, and in the reason or the code behind it or in that there is none to be
read. -/
structure SameSource (data data' : Bytes) : Prop where
  selector : data.take 4 = data'.take 4
  reason : data.take 4 = errorSelector → (Abi.textOf (data.drop 4) 0).toOption = (Abi.textOf (data'.drop 4) 0).toOption
  code : data.take 4 = panicSelector →
    (Abi.uint256Of (data.drop 4) 0).toOption = (Abi.uint256Of (data'.drop 4) 0).toOption

/-- The data of a revert with a text. -/
def errorData (text : String) : Bytes :=
  errorSelector ++ ((Abi.ofLength 32).bytes ++ Abi.ofBytes (Utf8.encode text))

/-- The data of a panic with a code. -/
def panicData (code : Uint256) : Bytes :=
  panicSelector ++ code.toWord.bytes

/-! ## What data tells -/

section

variable {data : Bytes} {reason : Reason}

/-- A reason is told by the data it was read from. -/
theorem tells_of_reason? (h : reason? data = some reason) : Tells data reason := by
  unfold reason? at h
  dsimp only at h
  split at h
  · nomatch h
  split at h
  · rename_i hselector
    cases h
    exact .error hselector
  split at h
  · rename_i hselector
    cases h
    exact .panic hselector
  · rename_i herror hpanic
    obtain ⟨e, hfind, hreason⟩ := Option.map_eq_some_iff.mp h
    cases hreason
    have hselector := List.find?_some hfind
    exact .custom (List.mem_of_find?_eq_some hfind) (of_decide_eq_true hselector).symm herror hpanic

/-- Data has no reason exactly when it is shorter than a selector or begins with none of the known ones. -/
theorem reason?_eq_none_iff : reason? data = none ↔ data.length < 4 ∨ ¬IsKnown (data.take 4) := by
  unfold reason? IsKnown
  dsimp only
  split
  · rename_i hshort
    simp [hshort]
  split
  · rename_i hlong herror
    simp [hlong, herror]
  split
  · rename_i hlong _ hpanic
    simp [hlong, hpanic]
  · rename_i hlong herror hpanic
    rw [Option.map_eq_none_iff, List.find?_eq_none]
    simp [hlong, herror, hpanic, eq_comm (a := data.take 4)]

/-- Data that begins with the selector of `Error` is an error with the text its argument holds, if any. -/
theorem reason?_errorSelector (arguments : Bytes) :
    reason? (errorSelector ++ arguments) = some (.error (Abi.textOf arguments 0).toOption) := by
  simp [reason?, errorSelector]

/-- Data that begins with the selector of `Panic` is a panic with the code its argument holds, if any. -/
theorem reason?_panicSelector (arguments : Bytes) :
    reason? (panicSelector ++ arguments) = some (.panic (Abi.uint256Of arguments 0).toOption) := by
  simp [reason?, panicSelector, errorSelector]

end

/-! ## No two reasons have the same text -/

/-- What is told of an error between its parentheses. -/
def errorInside (text : Option String) : String :=
  (text.map Text.jsonLiteral).getD "<decode failed>"

/-- What is told of a panic between its parentheses. -/
def panicInside (code : Option Uint256) : String :=
  (code.map Uint256.decimal).getD "<decode failed>"

/-- An error is told by its text between brackets. -/
theorem text_error (text : Option String) : (Reason.error text).text = "Error(" ++ errorInside text ++ ")" := by
  cases text <;> rfl

/-- A panic is told by its code between brackets. -/
theorem text_panic (code : Option Uint256) : (Reason.panic code).text = "Panic(" ++ panicInside code ++ ")" := by
  cases code <;> rfl

/-- A literal is of one text only, for that text is read from it. -/
theorem parse_jsonLiteral (s : String) : Json.parse (Text.jsonLiteral s) = .ok (.text s) := by
  have hread := Json.parse_render (Json.readsBack_text 127 s).inPlace
  rwa [Json.render, Json.renderChars] at hread

/-- Different texts have different literals. -/
theorem jsonLiteral_injective : Function.Injective Text.jsonLiteral := by
  intro s s' h
  have hread := parse_jsonLiteral s
  rw [h, parse_jsonLiteral] at hread
  cases hread
  rfl

/-- A literal starts with a quote. -/
theorem jsonLiteral_ne_failed (s : String) : Text.jsonLiteral s ≠ "<decode failed>" := by
  intro h
  have hhead := congrArg (fun t => t.toList.head?) h
  simp [Text.jsonLiteral, Text.jsonLiteralChars] at hhead

/-- A number is written in digits. -/
theorem decimal_ne_failed (x : Uint256) : x.decimal ≠ "<decode failed>" := by
  intro h
  have hmem : '<' ∈ x.decimal.toList := by
    rw [h]
    decide
  rw [Uint256.decimal, Nat.toString_eq_repr, Nat.toList_repr] at hmem
  exact absurd (Nat.isDigit_of_mem_toDigits (by decide) (by decide) hmem) (by decide)

/-- What stands between an error's brackets determines its text. -/
theorem errorInside_injective : Function.Injective errorInside := by
  intro text text' h
  cases text with
  | none =>
    cases text' with
    | none => rfl
    | some s' => exact absurd h.symm (jsonLiteral_ne_failed s')
  | some s =>
    cases text' with
    | none => exact absurd h (jsonLiteral_ne_failed s)
    | some s' => exact congrArg some (jsonLiteral_injective h)

/-- What stands between a panic's brackets determines its code. -/
theorem panicInside_injective : Function.Injective panicInside := by
  intro code code' h
  cases code with
  | none =>
    cases code' with
    | none => rfl
    | some x' => exact absurd h.symm (decimal_ne_failed x')
  | some x =>
    cases code' with
    | none => exact absurd h (decimal_ne_failed x)
    | some x' => exact congrArg some (Uint256.decimal_injective h)

/-- How the text of an error starts. -/
def errorStart : List Char := ['E', 'r', 'r', 'o', 'r', '(']

/-- How the text of a panic starts. -/
def panicStart : List Char := ['P', 'a', 'n', 'i', 'c', '(']

/-- The text of an error starts as errors do. -/
theorem starts_error (text : Option String) : errorStart <+: (Reason.error text).text.toList := by
  simp [text_error, errorStart]

/-- The text of a panic starts as panics do. -/
theorem starts_panic (code : Option Uint256) : panicStart <+: (Reason.panic code).text.toList := by
  simp [text_panic, panicStart]

/-- The names of custom errors start as neither of them does, and differ from each other. -/
theorem customErrors_names : (∀ e ∈ customErrors, ¬errorStart <+: e.2.toList ∧ ¬panicStart <+: e.2.toList) ∧
    (customErrors.map Prod.snd).Nodup := by
  decide

/-- No error is told as a panic. -/
theorem error_ne_panic (text : Option String) (code : Option Uint256) :
    (Reason.error text).text ≠ (Reason.panic code).text := by
  intro h
  have herror := starts_error text
  rw [h] at herror
  have hstarts := List.prefix_of_prefix_length_le herror (starts_panic code) (Nat.le_refl 6)
  exact absurd hstarts (by decide)

/-- No error is told as a custom error. -/
theorem error_ne_custom {e : String × String} (he : e ∈ customErrors) (text : Option String) :
    (Reason.error text).text ≠ (Reason.custom e.2).text := by
  intro h
  have hstart := starts_error text
  rw [h] at hstart
  exact (customErrors_names.1 e he).1 hstart

/-- No panic is told as a custom error. -/
theorem panic_ne_custom {e : String × String} (he : e ∈ customErrors) (code : Option Uint256) :
    (Reason.panic code).text ≠ (Reason.custom e.2).text := by
  intro h
  have hstart := starts_panic code
  rw [h] at hstart
  exact (customErrors_names.1 e he).2 hstart

section

variable {data data' : Bytes} {reason reason' : Reason}

/-- What data tells has a text that nothing else that data tells has. -/
theorem Tells.eq_of_text (h : Tells data reason) (h' : Tells data' reason') (htext : reason.text = reason'.text) :
    reason = reason' := by
  cases h with
  | error =>
    cases h' with
    | error =>
      rw [text_error, text_error, String.append_left_inj, String.append_right_inj] at htext
      rw [errorInside_injective htext]
    | panic => exact absurd htext (error_ne_panic _ _)
    | custom he' => exact absurd htext (error_ne_custom he' _)
  | panic =>
    cases h' with
    | error => exact absurd htext.symm (error_ne_panic _ _)
    | panic =>
      rw [text_panic, text_panic, String.append_left_inj, String.append_right_inj] at htext
      rw [panicInside_injective htext]
    | custom he' => exact absurd htext (panic_ne_custom he' _)
  | custom he =>
    cases h' with
    | error => exact absurd htext.symm (error_ne_custom he _)
    | panic => exact absurd htext.symm (panic_ne_custom he _)
    | custom => exact congrArg Reason.custom htext

/-- Payloads that tell the same have the same source. -/
theorem Tells.sameSource (h : Tells data reason) (h' : Tells data' reason') (hreason : reason = reason') :
    SameSource data data' := by
  have hne : errorSelector ≠ panicSelector := by decide
  cases h with
  | error hselector =>
    cases h' with
    | error hselector' =>
      exact ⟨hselector.trans hselector'.symm, fun _ => Reason.error.inj hreason,
        fun hpanic => absurd (hselector.symm.trans hpanic) hne⟩
    | panic => nomatch hreason
    | custom => nomatch hreason
  | panic hselector =>
    cases h' with
    | error => nomatch hreason
    | panic hselector' =>
      exact ⟨hselector.trans hselector'.symm, fun herror => absurd (herror.symm.trans hselector) hne,
        fun _ => Reason.panic.inj hreason⟩
    | custom => nomatch hreason
  | @custom e he hselector herror hpanic =>
    cases h' with
    | error => nomatch hreason
    | panic => nomatch hreason
    | @custom e' he' hselector' =>
      have hentry : e = e' := List.inj_on_of_nodup_map customErrors_names.2 he he' (Reason.custom.inj hreason)
      exact ⟨hselector.trans (hentry ▸ hselector'.symm), fun h => absurd h herror, fun h => absurd h hpanic⟩

end

/-! ## Reasons and codes are told as they are -/

/-- A text whose octets can be counted in a word is read back from its encoding. -/
theorem textOf_encoded {s : String} (h : (Utf8.encode s).length < Word.count) :
    Abi.textOf ((Abi.ofLength 32).bytes ++ Abi.ofBytes (Utf8.encode s)) 0 = .ok s := by
  rw [Abi.textOf, Abi.bytesOf_ofBytes h, Result.ok_bind, Utf8.decode_encode]
  rfl

/-- An encoded error is described by its message as a literal. -/
theorem describe?_errorData {s : String} (h : (Utf8.encode s).length < Word.count) :
    describe? (errorData s) = some ("Error(" ++ Text.jsonLiteral s ++ ")") := by
  rw [describe?, errorData, reason?_errorSelector, textOf_encoded h]
  exact congrArg some (text_error (some s))

/-- An encoded panic is described by its code in decimal. -/
theorem describe?_panicData (code : Uint256) : describe? (panicData code) = some ("Panic(" ++ code.decimal ++ ")") := by
  rw [describe?, panicData, reason?_panicSelector, Abi.uint256Of_toWord]
  exact congrArg some (text_panic (some code))

/-- Data described by the same text has the same source. -/
theorem sameSource_of_describe? {data data' : Bytes} {x : String} (h : describe? data = some x)
    (h' : describe? data' = some x) :
    SameSource data data' := by
  obtain ⟨reason, hreason, rfl⟩ := Option.map_eq_some_iff.mp h
  obtain ⟨reason', hreason', htext⟩ := Option.map_eq_some_iff.mp h'
  have htells := tells_of_reason? hreason
  have htells' := tells_of_reason? hreason'
  exact htells.sameSource htells' (htells.eq_of_text htells' htext.symm)

/-- A reason is told as its literal, from which it can be read, and a code in decimal digits. Payloads that are told
alike have the same selector, and the same reason or code if it can be read. Nothing is told of a payload that has no
selector or an unknown one. -/
theorem describe?_faithful :
    (∀ s : String, (Utf8.encode s).length < Word.count →
      describe? (errorData s) = some ("Error(" ++ Text.jsonLiteral s ++ ")") ∧
      Json.parse (Text.jsonLiteral s) = .ok (.text s)) ∧
    (∀ code : Uint256, describe? (panicData code) = some ("Panic(" ++ code.decimal ++ ")")) ∧
    (∀ data data' x, describe? data = some x → describe? data' = some x → SameSource data data') ∧
    ∀ data, describe? data = none ↔ data.length < 4 ∨ ¬IsKnown (data.take 4) := by
  refine ⟨fun s hs => ⟨describe?_errorData hs, parse_jsonLiteral s⟩, describe?_panicData, ?_, ?_⟩
  · intro data data' x h h'
    exact sameSource_of_describe? h h'
  · intro data
    rw [describe?, Option.map_eq_none_iff, reason?_eq_none_iff]

/-- A reason that reads like another diagnostic is quoted, octets behind a code change nothing, and what holds no code
is told apart. -/
theorem describe?_faithful_sample :
    (Utf8.encode "a\"b").length < Word.count ∧ describe? (errorData "a\"b") = some "Error(\"a\\\"b\")" ∧
      describe? (panicData .one) = some "Panic(1)" ∧ describe? (panicData .one ++ [7]) = some "Panic(1)" ∧
      Abi.uint256Of (panicData .one ++ [7] |>.drop 4) 0 = .ok .one ∧
      describe? (panicSelector ++ [7]) = some "Panic(<decode failed>)" ∧
      describe? [8, 195, 121] = none := by
  have hlength : (Utf8.encode "a\"b").length < Word.count := by decide
  obtain ⟨herror, hpanic, hsame, hnone⟩ := describe?_faithful
  have hone : describe? (panicData .one) = some "Panic(1)" := (hpanic .one).trans (by decide)
  have hmore : describe? (panicData .one ++ [7]) = some "Panic(1)" := by decide
  have hcode := (hsame _ _ _ hone hmore).code (by decide)
  have hread : Abi.uint256Of ((panicData .one).drop 4) 0 = .ok .one := Abi.uint256Of_toWord .one
  rw [hread] at hcode
  refine ⟨hlength, (herror _ hlength).1.trans (by decide), hone, hmore, ?_, by decide, (hnone _).mpr (.inl (by decide))⟩
  exact Result.toOption_eq_some.mp hcode.symm

end CheckpointRelay.Revert
