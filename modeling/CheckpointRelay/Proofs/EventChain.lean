import Mathlib.Data.List.Induction
import CheckpointRelay.EventChain

/-!
# The event chain shows tampering

A tip stands for all that was folded into it. `inputs` lists what is hashed along events, one byte string for each. Two
folds that end in the same tip either hash two different byte strings of their inputs to the same digest, or end in the
same events, in the same block and from the same tip on (`tamper_evident`).
-/

namespace CheckpointRelay.EventChain

/-- What is hashed along events, from a tip on. -/
def inputs (block : BlockRef) : (tip : Tip) → (events : List Event) → List Bytes
  | _, [] => []
  | tip, event :: events => preimage tip block event :: inputs block (advance block tip event) events

/-- Two different byte strings, one of each list, have the same hash. -/
def Collide (xs ys : List Bytes) : Prop :=
  ∃ x ∈ xs, ∃ y ∈ ys, x ≠ y ∧ Sha256.digest x = Sha256.digest y

namespace TamperAux

variable {block block' : BlockRef} {tip tip' : Tip}

/-- Folding one more event hashes its preimage over the tip so far. -/
theorem fold_concat (block : BlockRef) (tip : Tip) (events : List Event) (event : Event) :
    fold block tip (events ++ [event]) = Sha256.digest (preimage (fold block tip events) block event) :=
  List.foldl_append

/-- One more event adds its preimage to what was hashed. -/
theorem inputs_concat (block : BlockRef) (tip : Tip) (events : List Event) (event : Event) :
    inputs block tip (events ++ [event]) =
      inputs block tip events ++ [preimage (fold block tip events) block event] := by
  induction events generalizing tip with
  | nil => rfl
  | cons first events ih => rw [List.cons_append, inputs, inputs, ih, fold_cons, List.cons_append]

/-- A number of sixty-four bits is determined by its word. -/
theorem toNat_injective_of_word {x y : UInt64} (h : Bytes.ofNat 32 x.toNat = Bytes.ofNat 32 y.toNat) : x = y := by
  have hfits : ∀ n : UInt64, n.toNat < Bytes.count 32 := fun n => Nat.lt_trans n.toNat_lt (by decide)
  have hvalue := congrArg Bytes.toNat h
  rw [Bytes.toNat_ofNat (hfits x), Bytes.toNat_ofNat (hfits y)] at hvalue
  exact UInt64.toNat_inj.mp hvalue

/-- What is hashed for an event tells the tip before it, the block and the event apart: all but the data of the event
has a fixed width. -/
theorem preimage_injective {event event' : Event} (h : preimage tip block event = preimage tip' block' event') :
    tip = tip' ∧ block = block' ∧ event = event' := by
  obtain ⟨number, timestamp⟩ := block
  obtain ⟨number', timestamp'⟩ := block'
  obtain ⟨topic, data⟩ := event
  obtain ⟨topic', data'⟩ := event'
  simp only [preimage, List.append_assoc] at h
  obtain ⟨htip, h⟩ := List.append_inj h (by rw [tip.length_eq, tip'.length_eq])
  obtain ⟨hnumber, h⟩ := List.append_inj h (by simp only [Bytes.length_ofNat])
  obtain ⟨htimestamp, h⟩ := List.append_inj h (by simp only [Bytes.length_ofNat])
  obtain ⟨htopic, hdata⟩ := List.append_inj h (by rw [topic.length_eq, topic'.length_eq])
  rw [toNat_injective_of_word hnumber, toNat_injective_of_word htimestamp, Octets.ext htopic, hdata]
  exact ⟨Octets.ext htip, rfl, rfl⟩

/-- Inputs that collide do so as well when more stand behind them. -/
theorem collide_append {xs ys more more' : List Bytes} (h : Collide xs ys) : Collide (xs ++ more) (ys ++ more') := by
  obtain ⟨x, hx, y, hy, hne, heq⟩ := h
  exact ⟨x, List.mem_append_left more hx, y, List.mem_append_left more' hy, hne, heq⟩

/-- The last events of two folds with the same tip: they collide, or they are equal and so is all that is hashed with
them. -/
theorem collide_or_last_eq {events events' : List Event} {event event' : Event}
    (h : fold block tip (events ++ [event]) = fold block' tip' (events' ++ [event'])) :
    Collide (inputs block tip (events ++ [event])) (inputs block' tip' (events' ++ [event'])) ∨
      fold block tip events = fold block' tip' events' ∧ block = block' ∧ event = event' := by
  rw [fold_concat, fold_concat] at h
  by_cases heq : preimage (fold block tip events) block event = preimage (fold block' tip' events') block' event'
  · exact Or.inr (preimage_injective heq)
  · refine Or.inl ⟨_, ?_, _, ?_, heq, h⟩
    · rw [inputs_concat]
      exact List.mem_append_right _ (List.mem_singleton_self _)
    · rw [inputs_concat]
      exact List.mem_append_right _ (List.mem_singleton_self _)

/-- Two folds with the same tip, compared from their last events on, as far back as the shorter one reaches. -/
theorem collide_or_suffix {first front back : List Event} (hlength : back.length = first.length)
    (h : fold block tip first = fold block' tip' (front ++ back)) :
    Collide (inputs block tip first) (inputs block' tip' (front ++ back)) ∨
      back = first ∧ fold block' tip' front = tip ∧ (first = [] ∨ block = block') := by
  induction first using List.reverseRecOn generalizing back with
  | nil =>
    obtain rfl := List.eq_nil_of_length_eq_zero hlength
    rw [List.append_nil, fold_nil] at h
    exact Or.inr ⟨rfl, h.symm, Or.inl rfl⟩
  | append_singleton first event ih =>
    rcases List.eq_nil_or_concat back with rfl | ⟨back, event', rfl⟩
    · simp at hlength
    rw [List.concat_eq_append] at hlength h ⊢
    rw [← List.append_assoc] at h ⊢
    have hshorter : back.length = first.length := by simpa using hlength
    rcases collide_or_last_eq h with hcollide | ⟨hfold, hblock, hevent⟩
    · exact Or.inl hcollide
    rcases ih hshorter hfold with hcollide | ⟨hback, hfront, -⟩
    · rw [inputs_concat, inputs_concat]
      exact Or.inl (collide_append hcollide)
    · rw [hback, hevent]
      exact Or.inr ⟨rfl, hfront, Or.inr hblock⟩

end TamperAux

open TamperAux

/-- Two folds end in the same tip only if two of the byte strings hashed along them collide, or if the longer one ends
in the events of the shorter, folded in the same block from the tip that the shorter starts from. Folds of equally many
events, at least one, then agree in all. -/
theorem tamper_evident (block block' : BlockRef) (tip tip' : Tip) :
    (∀ first front back : List Event, back.length = first.length →
      fold block tip first = fold block' tip' (front ++ back) →
      Collide (inputs block tip first) (inputs block' tip' (front ++ back)) ∨
        back = first ∧ fold block' tip' front = tip ∧ (first = [] ∨ block = block')) ∧
    ∀ first second : List Event,
      first.length = second.length → first ≠ [] → fold block tip first = fold block' tip' second →
      ¬Collide (inputs block tip first) (inputs block' tip' second) → tip = tip' ∧ block = block' ∧ first = second := by
  refine ⟨fun first front back => collide_or_suffix, ?_⟩
  intro first second hlength hne h hfree
  have hwhole : fold block tip first = fold block' tip' ([] ++ second) := h
  rcases collide_or_suffix hlength.symm hwhole with hcollide | ⟨hsecond, htip, hnil | hblock⟩
  · exact absurd hcollide hfree
  · exact absurd hnil hne
  · exact ⟨htip.symm, hblock, hsecond.symm⟩

/-- An event of ones. -/
def sampleEvent : Event := ⟨Octets.ofNat 32 1, [1]⟩

/-- A fold of one event and a fold of two that ends in it: the tip in the middle is the one that the first starts
from. -/
theorem tamper_evident_sample :
    fold ⟨7, 9⟩ (advance ⟨7, 9⟩ (Octets.ofNat 32 0) sampleEvent) [sampleEvent] =
        fold ⟨7, 9⟩ (Octets.ofNat 32 0) ([sampleEvent] ++ [sampleEvent]) ∧
      (Collide (inputs ⟨7, 9⟩ (advance ⟨7, 9⟩ (Octets.ofNat 32 0) sampleEvent) [sampleEvent])
          (inputs ⟨7, 9⟩ (Octets.ofNat 32 0) ([sampleEvent] ++ [sampleEvent])) ∨
        [sampleEvent] = [sampleEvent] ∧
          fold ⟨7, 9⟩ (Octets.ofNat 32 0) [sampleEvent] = advance ⟨7, 9⟩ (Octets.ofNat 32 0) sampleEvent ∧
          ([sampleEvent] = [] ∨ (⟨7, 9⟩ : BlockRef) = ⟨7, 9⟩)) :=
  ⟨rfl, (tamper_evident ⟨7, 9⟩ ⟨7, 9⟩ (advance ⟨7, 9⟩ (Octets.ofNat 32 0) sampleEvent) (Octets.ofNat 32 0)).1
    [sampleEvent] [sampleEvent] [sampleEvent] rfl rfl⟩

end CheckpointRelay.EventChain
