import CheckpointRelay.Proofs.Abi.Reading
import CheckpointRelay.Plan.Events

/-!
# The order of the events of a plan

The events of planning are told apart by their data, and each kind tells its arguments. A plan is `Orderly` when a token
is swept from a receiver once at most, and a receiver is made once at most, just before it is first swept.
-/

namespace CheckpointRelay

/-! ## Telling events apart -/

namespace Event

variable {salt salt' : Word} {token token' account account' rebalancer : Address}
  {amount amount' rate rate' worth worth' sent received received' : Uint256}

/-! The events of planning have data of different lengths. -/

/-- The making of a receiver carries two words. -/
theorem length_data_receiverDeployed (account : Address) (salt : Word) :
    (receiverDeployed account salt).data.length = 64 := by
  rw [receiverDeployed, Abi.length_words]
  rfl

/-- A pull carries five words. -/
theorem length_data_pulledFromReceiver (salt : Word) (token : Address) (amount rate worth : Uint256) :
    (pulledFromReceiver salt token amount rate worth).data.length = 160 := by
  rw [pulledFromReceiver, Abi.length_words]
  rfl

/-- A rebalancing carries three words. -/
theorem length_data_usdtRebalanced (sent received : Uint256) (rebalancer : Address) :
    (usdtRebalanced sent received rebalancer).data.length = 96 := by
  rw [usdtRebalanced, Abi.length_words]
  rfl

/-- Events with data of different lengths are different. -/
theorem ne_of_length_data {e e' : Event} (h : e.data.length ≠ e'.data.length) : e ≠ e' := by
  rintro rfl
  exact h rfl

/-- A pull is not the making of a receiver. -/
theorem pulledFromReceiver_ne_receiverDeployed :
    pulledFromReceiver salt token amount rate worth ≠ receiverDeployed account salt' :=
  ne_of_length_data (by rw [length_data_pulledFromReceiver, length_data_receiverDeployed]; decide)

/-- A rebalancing is not a pull. -/
theorem usdtRebalanced_ne_pulledFromReceiver :
    usdtRebalanced sent received rebalancer ≠ pulledFromReceiver salt token amount rate worth :=
  ne_of_length_data (by rw [length_data_usdtRebalanced, length_data_pulledFromReceiver]; decide)

/-- A rebalancing is not the making of a receiver. -/
theorem usdtRebalanced_ne_receiverDeployed : usdtRebalanced sent received rebalancer ≠ receiverDeployed account salt :=
  ne_of_length_data (by rw [length_data_usdtRebalanced, length_data_receiverDeployed]; decide)

/-- The making of a receiver determines its account and salt. -/
theorem receiverDeployed_inj (h : receiverDeployed account salt = receiverDeployed account' salt') :
    account = account' ∧ salt = salt' := by
  have hwords := Abi.words_injective (congrArg Event.data h)
  rw [List.cons.injEq, List.cons.injEq] at hwords
  exact ⟨Abi.ofAddress_injective hwords.1, hwords.2.1⟩

/-- A pull determines its salt, token and amount. -/
theorem pulledFromReceiver_inj
    (h : pulledFromReceiver salt token amount rate worth = pulledFromReceiver salt' token' amount' rate' worth') :
    salt = salt' ∧ token = token' ∧ amount = amount' := by
  have hwords := Abi.words_injective (congrArg Event.data h)
  rw [List.cons.injEq, List.cons.injEq, List.cons.injEq] at hwords
  obtain ⟨hsalt, htoken, hamount, -⟩ := hwords
  refine ⟨hsalt, Abi.ofAddress_injective htoken, ?_⟩
  rw [← Uint256.ofWord_toWord amount, hamount, Uint256.ofWord_toWord]

/-- A rebalancing determines what arrives. -/
theorem usdtRebalanced_inj (h : usdtRebalanced sent received rebalancer = usdtRebalanced sent received' rebalancer) :
    received = received' := by
  rw [usdtRebalanced, usdtRebalanced, Event.mk.injEq] at h
  obtain ⟨-, htail⟩ := List.cons.inj (Abi.words_injective h.2)
  obtain ⟨hreceived, -⟩ := List.cons.inj htail
  rw [← Uint256.ofWord_toWord received, hreceived, Uint256.ofWord_toWord]

end Event

namespace Plan

/-! ## Orderly events -/

/-- The event says that the token is swept from the account, the receiver of a salt. -/
def Sweeps (receiver : Word → Address) (token account : Address) (e : Event) : Prop :=
  ∃ salt amount rate worth, e = .pulledFromReceiver salt token amount rate worth ∧ receiver salt = account

/-- What an event of a plan has before and after it. -/
structure InOrder (receiver : Word → Address) (front : List Event) (e : Event) (back : List Event) : Prop where
  /-- A sweep is of one unit at least, and the first of its token from its receiver. -/
  swept : ∀ salt token amount rate worth, e = .pulledFromReceiver salt token amount rate worth →
    1 ≤ amount.val ∧ ∀ earlier ∈ front, ¬Sweeps receiver token (receiver salt) earlier
  /-- A receiver is made for the sweep that follows, when it has neither been made nor been swept of any token. -/
  made : ∀ account salt, e = .receiverDeployed account salt → account = receiver salt ∧
    (∃ token amount rate worth rest, back = .pulledFromReceiver salt token amount rate worth :: rest) ∧
    ∀ earlier ∈ front, (∀ salt', earlier ≠ .receiverDeployed account salt') ∧
      ∀ token, ¬Sweeps receiver token account earlier

/-- Every event stands where it may. -/
def Orderly (receiver : Word → Address) (emitted : List Event) : Prop :=
  ∀ front e back, emitted = front ++ e :: back → InOrder receiver front e back

section

variable {receiver : Word → Address} {token account : Address} {emitted more front back : List Event} {e : Event}

/-- What comes later may always be followed by more. -/
theorem InOrder.append (h : InOrder receiver front e back) (more : List Event) :
    InOrder receiver front e (back ++ more) where
  swept := h.swept
  made account salt he := by
    obtain ⟨haccount, ⟨token, amount, rate, worth, rest, hback⟩, hfront⟩ := h.made account salt he
    exact ⟨haccount, ⟨token, amount, rate, worth, rest ++ more, by rw [hback, List.cons_append]⟩, hfront⟩

/-- No events are orderly. -/
theorem orderly_nil : Orderly receiver [] := by
  intro front e back h
  cases front <;> nomatch h

/-- More events are orderly if each of them stands where it may behind those before. -/
theorem Orderly.append (h : Orderly receiver emitted)
    (hmore : ∀ front e back, more = front ++ e :: back → InOrder receiver (emitted ++ front) e back) :
    Orderly receiver (emitted ++ more) := by
  intro front e back heq
  rcases List.append_eq_append_iff.mp heq with ⟨middle, rfl, htail⟩ | ⟨middle, rfl, htail⟩
  · exact hmore middle e back htail
  · cases middle with
    | nil =>
      have hfirst := hmore [] e back htail.symm
      rwa [List.append_nil, List.append_nil] at hfirst
    | cons first middle =>
      obtain ⟨rfl, rfl⟩ := List.cons.inj htail
      exact (h front e middle rfl).append more

/-- Orderly events stay so with one more that stands where it may. -/
theorem Orderly.concat (h : Orderly receiver emitted) (he : InOrder receiver emitted e []) :
    Orderly receiver (emitted ++ [e]) := by
  refine h.append fun front e' back heq => ?_
  rcases List.cons_eq_append_iff.mp heq with ⟨rfl, hcons⟩ | ⟨front, rfl, hnil⟩
  · obtain ⟨rfl, rfl⟩ := List.cons.inj hcons
    rwa [List.append_nil]
  · cases front <;> nomatch hnil

/-- Two events at once, the first of which asks for the second. -/
theorem Orderly.concat_pair {e' : Event} (h : Orderly receiver emitted) (he : InOrder receiver emitted e [e'])
    (he' : InOrder receiver (emitted ++ [e]) e' []) : Orderly receiver (emitted ++ [e, e']) := by
  refine h.append fun front e'' back heq => ?_
  rcases List.cons_eq_append_iff.mp heq with ⟨rfl, hcons⟩ | ⟨front, rfl, hrest⟩
  · obtain ⟨rfl, rfl⟩ := List.cons.inj hcons
    rwa [List.append_nil]
  · rcases List.cons_eq_append_iff.mp hrest with ⟨rfl, hcons⟩ | ⟨front, rfl, hnil⟩
    · obtain ⟨rfl, rfl⟩ := List.cons.inj hcons
      exact he'
    · cases front <;> nomatch hnil

/-- A pull of one unit at least, from an account that the token was not swept from before, is in order. -/
theorem inOrder_pulledFromReceiver {salt : Word} {amount : Uint256} (rate worth : Uint256) (hamount : 1 ≤ amount.val)
    (hfront : ∀ earlier ∈ front, ¬Sweeps receiver token (receiver salt) earlier) :
    InOrder receiver front (.pulledFromReceiver salt token amount rate worth) back where
  swept salt' token' amount' rate' worth' heq := by
    obtain ⟨rfl, rfl, rfl⟩ := Event.pulledFromReceiver_inj heq
    exact ⟨hamount, hfront⟩
  made account salt' heq := absurd heq Event.pulledFromReceiver_ne_receiverDeployed

/-- The making of an account that was neither made nor swept before, with the pull from it right behind, is in order. -/
theorem inOrder_receiverDeployed {salt : Word} (amount rate worth : Uint256)
    (hfront : ∀ earlier ∈ front, (∀ salt', earlier ≠ .receiverDeployed (receiver salt) salt') ∧
      ∀ token, ¬Sweeps receiver token (receiver salt) earlier) :
    InOrder receiver front (.receiverDeployed (receiver salt) salt)
      (.pulledFromReceiver salt token amount rate worth :: back) where
  swept salt' token' amount' rate' worth' heq := absurd heq.symm Event.pulledFromReceiver_ne_receiverDeployed
  made account salt' heq := by
    obtain ⟨rfl, rfl⟩ := Event.receiverDeployed_inj heq
    exact ⟨rfl, ⟨token, amount, rate, worth, back, rfl⟩, hfront⟩

/-- A rebalancing is in order anywhere. -/
theorem inOrder_usdtRebalanced (sent received : Uint256) (rebalancer : Address) :
    InOrder receiver front (.usdtRebalanced sent received rebalancer) back where
  swept _ _ _ _ _ heq := absurd heq Event.usdtRebalanced_ne_pulledFromReceiver
  made _ _ heq := absurd heq Event.usdtRebalanced_ne_receiverDeployed

/-- The event of a sweep is of its own token and receiver only. -/
theorem sweeps_pulledFromReceiver_iff {salt : Word} {token' : Address} {amount rate worth : Uint256} :
    Sweeps receiver token account (.pulledFromReceiver salt token' amount rate worth) ↔
      token' = token ∧ receiver salt = account := by
  constructor
  · rintro ⟨salt', amount', rate', worth', heq, haccount⟩
    obtain ⟨rfl, rfl, -⟩ := Event.pulledFromReceiver_inj heq
    exact ⟨rfl, haccount⟩
  · rintro ⟨rfl, haccount⟩
    exact ⟨salt, amount, rate, worth, rfl, haccount⟩

/-- The making of a receiver sweeps nothing. -/
theorem not_sweeps_receiverDeployed {salt : Word} {account' : Address} :
    ¬Sweeps receiver token account (.receiverDeployed account' salt) := by
  rintro ⟨salt', amount, rate, worth, heq, -⟩
  exact Event.pulledFromReceiver_ne_receiverDeployed heq.symm

/-- A rebalancing sweeps nothing. -/
theorem not_sweeps_usdtRebalanced {sent received : Uint256} {rebalancer : Address} :
    ¬Sweeps receiver token account (.usdtRebalanced sent received rebalancer) := by
  rintro ⟨salt, amount, rate, worth, heq, -⟩
  exact Event.usdtRebalanced_ne_pulledFromReceiver heq

end

end Plan

end CheckpointRelay
