/-!
# Scanning text

What readers of text formats share: the remainder that a reader leaves, and digits with the numbers that they write.
-/

namespace CheckpointRelay.Text

/-- What a reader leaves of `input`, with what it read; it has read something. -/
structure Scanned (input : List Char) (α : Type) where
  value : α
  rest : List Char
  shorter : rest.length < input.length

namespace Scanned

variable {part input : List Char} {α β γ : Type}

/-- A value that one character writes. -/
def single (c : Char) (rest : List Char) (value : α) : Scanned (c :: rest) α :=
  ⟨value, rest, Nat.lt_succ_self rest.length⟩

/-- The first character, if there is one. -/
def first? : (input : List Char) → Option (Scanned input Char)
  | [] => none
  | c :: rest => some (single c rest c)

/-- What was read behind a character. -/
def behind (c : Char) (s : Scanned part α) : Scanned (c :: part) α :=
  ⟨s.value, s.rest, Nat.lt_succ_of_lt s.shorter⟩

/-- The value, with what `f` makes of it in place of it. -/
def map (f : α → β) (s : Scanned input α) : Scanned input β :=
  ⟨f s.value, s.rest, s.shorter⟩

/-- What was read after something else, with both values joined. -/
def andThen (f : α → β → γ) (s : Scanned input α) (t : Scanned s.rest β) : Scanned input γ :=
  ⟨f s.value t.value, t.rest, Nat.lt_trans t.shorter s.shorter⟩

/-- What was read after something else that only had to be there. -/
def followedBy (s : Scanned input α) (t : Scanned s.rest β) : Scanned input β :=
  s.andThen (fun _ b => b) t

/-- What was read in a part of the input that is no longer than it. -/
def widen (s : Scanned part α) (h : part.length ≤ input.length) : Scanned input α :=
  ⟨s.value, s.rest, Nat.lt_of_lt_of_le s.shorter h⟩

/-- What is left behind a part that need not be there. -/
def restAfter : Option (Scanned input α) → List Char
  | some s => s.rest
  | none => input

/-- What is left of the input is no longer than it. -/
theorem length_restAfter_le (s : Option (Scanned input α)) : (restAfter s).length ≤ input.length := by
  cases s with
  | none => exact Nat.le_refl _
  | some s => exact Nat.le_of_lt s.shorter

end Scanned

/-- Whether a character is a decimal digit. -/
def isDigit (c : Char) : Bool :=
  '0' ≤ c && c ≤ '9'

/-- The value of a hexadecimal digit of either case. -/
def hexValue? (c : Char) : Option Nat :=
  if '0' ≤ c ∧ c ≤ '9' then some (c.toNat - 48)
  else if 'a' ≤ c ∧ c ≤ 'f' then some (c.toNat - 87)
  else if 'A' ≤ c ∧ c ≤ 'F' then some (c.toNat - 55)
  else none

/-- Whether a character is a hexadecimal digit of either case. -/
def isHexDigit (c : Char) : Bool :=
  (hexValue? c).isSome

/-- The number that digits write in a base; what is no digit counts as zero. -/
def numberOf (base : Nat) (digits : List Char) : Nat :=
  digits.foldl (fun n c => n * base + (hexValue? c).getD 0) 0

/-- Dropping characters does not lengthen. -/
theorem length_dropWhile_le (p : Char → Bool) (cs : List Char) : (cs.dropWhile p).length ≤ cs.length :=
  (List.dropWhile_sublist _).length_le

/-- Dropping at least one character shortens. -/
theorem length_dropWhile_lt {p : Char → Bool} {cs : List Char} (h : cs.takeWhile p ≠ []) :
    (cs.dropWhile p).length < cs.length := by
  have hl := congrArg List.length (List.takeWhile_append_dropWhile (p := p) (l := cs))
  have hp := List.length_pos_iff.mpr h
  rw [List.length_append] at hl
  omega

end CheckpointRelay.Text
