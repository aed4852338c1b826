import CheckpointRelay.Proofs.Plan.Fee
import CheckpointRelay.Proofs.Plan.Orderly
import CheckpointRelay.Proofs.Plan.Refinement

/-!
# What arrives of a rebalanced amount

The plan of a rebalancing reads the route and its fee, and tells what arrives (`rebalancingPlan_eq`). It fails exactly
when the amount cannot be charged, and otherwise what arrives and the fee make up the amount. When the fee is no more
than the whole, the rest of the amount arrives, rounded up (`rebalancing_exact`).
-/

namespace CheckpointRelay.Plan

/-! ## The plan of a rebalancing -/

/-- What planning reads of the route of a rebalancer. -/
structure Routed (reader : Reader) (controller rebalancer oft : Address) (feeBps denominator : Uint256) : Prop where
  usdt : ∃ answer token, reader (.contract controller (readCall Signature.usdt)) = .ok answer ∧
    Abi.addressOf answer 0 = .ok token
  /-- The route has three words at least, and names a contract in the first. -/
  payload : ∃ answer payload,
    reader (.contract controller (addressReadCall Signature.payloadFor rebalancer)) = .ok answer ∧
    Abi.bytesOf answer 0 = .ok payload ∧ 96 ≤ payload.length ∧ payload.take 32 = (Abi.ofAddress oft).bytes
  feeBps : ∃ answer, reader (.contract oft (readCall Signature.feeBps)) = .ok answer ∧
    Abi.uint256Of answer 0 = .ok feeBps
  denominator : ∃ answer,
    reader (.contract oft (readCall Signature.bpsDenominator)) = .ok answer ∧ Abi.uint256Of answer 0 = .ok denominator

/-- The plan of one rebalancing. -/
def rebalancingPlan (reader : Reader) (controller rebalancer : Address) (amount : Uint256) :
    Except Error (List Event) :=
  (events controller [.rebalanceUsdt rebalancer amount]).run.answered reader

/-- The plan says what arrives of an amount. -/
def Arrives (reader : Reader) (controller rebalancer : Address) (amount received : Uint256) : Prop :=
  rebalancingPlan reader controller rebalancer amount = .ok [.usdtRebalanced amount received rebalancer]

section

variable {reader : Reader} {controller rebalancer oft : Address} {feeBps denominator amount received : Uint256}

/-- Wherever a rebalancing stands in a batch, it tells what arrives, and nothing is remembered of it. -/
theorem outcome_rebalanceUsdt (h : Routed reader controller rebalancer oft feeBps denominator) (usdt : Address)
    (caches : Caches) (amount : Uint256) :
    outcome reader caches (callEvents controller usdt (.rebalanceUsdt rebalancer amount)) =
      (afterFee oft amount feeBps denominator).map fun received =>
        ([.usdtRebalanced amount received rebalancer], caches) := by
  obtain ⟨answer, payload, hread, hbytes, hlength, hfirst⟩ := h.payload
  obtain ⟨_, hreadFee, hfee⟩ := h.feeBps
  obtain ⟨_, hreadDenominator, hdenominator⟩ := h.denominator
  have hne : payload ≠ [] := List.ne_nil_of_length_pos (by omega)
  obtain ⟨third, hthird⟩ : ∃ third, Abi.wordOf payload 2 = .ok third := ⟨_, dif_pos hlength⟩
  have hroute : Abi.addressOf payload 0 = .ok oft :=
    Abi.addressOf_eq_ok_iff.mpr (Abi.wordOf_zero_eq_ok_iff.mpr ⟨by omega, hfirst⟩)
  have hreceived : outcome reader caches (rebalanced controller rebalancer amount) =
      (afterFee oft amount feeBps denominator).map fun received => (received, caches) := by
    unfold rebalanced
    rw [outcome_bind_of_ok (outcome_readContract hread), hbytes, outcome_bind_of_ok (outcome_ofDecoded _ _), if_neg hne,
      hthird, outcome_bind_of_ok (outcome_ofDecoded _ _), hroute, outcome_bind_of_ok (outcome_ofDecoded _ _),
      outcome_bind_of_ok (outcome_readNumber_of_uint256Of hreadFee hfee),
      outcome_bind_of_ok (outcome_readNumber_of_uint256Of hreadDenominator hdenominator)]
    cases afterFee oft amount feeBps denominator with
    | error cause => rfl
    | ok received => rfl
  unfold callEvents
  rw [outcome_bind, hreceived]
  cases afterFee oft amount feeBps denominator with
  | error cause => rfl
  | ok received => rfl

/-- The plan is one event with what the fee leaves, or the fee's cause of failure. -/
theorem rebalancingPlan_eq (h : Routed reader controller rebalancer oft feeBps denominator) (amount : Uint256) :
    rebalancingPlan reader controller rebalancer amount =
      ((afterFee oft amount feeBps denominator).map fun received =>
        [.usdtRebalanced amount received rebalancer]).mapError (Error.call "rebalanceUsdt") := by
  obtain ⟨answer, usdt, hread, haddress⟩ := h.usdt
  have hcall : (callEvents controller usdt (.rebalanceUsdt rebalancer amount) {}).run.answered reader =
      outcome reader {} (callEvents controller usdt (.rebalanceUsdt rebalancer amount)) := rfl
  rw [rebalancingPlan, events, Dialogue.answered_except_bind, Dialogue.answered_mk, Dialogue.answered_bind,
    Dialogue.answered_question, Dialogue.answered_done, hread]
  refine (Dialogue.answered_except_bind _ _).trans ?_
  rw [Dialogue.answered_mk, Dialogue.answered_done, haddress]
  refine (Dialogue.answered_except_bind _ _).trans ?_
  rw [Dialogue.answered_adapt, hcall, outcome_rebalanceUsdt h]
  cases afterFee oft amount feeBps denominator with
  | error cause => rfl
  | ok received => rfl

/-- What arrives is what the fee leaves. -/
theorem arrives_iff (h : Routed reader controller rebalancer oft feeBps denominator) :
    Arrives reader controller rebalancer amount received ↔ afterFee oft amount feeBps denominator = .ok received := by
  rw [Arrives, rebalancingPlan_eq h]
  cases afterFee oft amount feeBps denominator with
  | error cause => simp [Except.map, Except.mapError]
  | ok arrived =>
    simp only [Except.map, Except.mapError, Except.ok.injEq, List.cons.injEq, and_true]
    constructor
    · exact Event.usdtRebalanced_inj
    · rintro rfl
      rfl

/-- An amount that arrives has been charged. -/
theorem Arrives.charged (hroute : Routed reader controller rebalancer oft feeBps denominator)
    (h : Arrives reader controller rebalancer amount received) :
    Charged oft amount feeBps denominator (.ok received) := by
  have hcharged := charged_afterFee oft amount feeBps denominator
  rwa [(arrives_iff hroute).mp h] at hcharged

/-- Something arrives of an amount that can be charged. -/
theorem exists_arrives (hroute : Routed reader controller rebalancer oft feeBps denominator)
    (hpos : 0 < denominator.val) (hpart : feeBps.val ≤ denominator.val) (hfits : amount.val * feeBps.val < Word.count) :
    ∃ received, Arrives reader controller rebalancer amount received := by
  have hfee : amount.val * feeBps.val / denominator.val ≤ amount.val := fee_le hpart
  cases hresult : afterFee oft amount feeBps denominator with
  | ok received => exact ⟨received, (arrives_iff hroute).mpr hresult⟩
  | error cause =>
    have hrefused := (charged_afterFee oft amount feeBps denominator).refused_iff.mp ⟨cause, hresult⟩
    unfold Refused at hrefused
    omega

/-- What arrives is the amount without the fee. -/
theorem Arrives.eq_sub (hroute : Routed reader controller rebalancer oft feeBps denominator)
    (h : Arrives reader controller rebalancer amount received) :
    received.val = amount.val - amount.val * feeBps.val / denominator.val := by
  have hsum := (h.charged hroute).sum_eq
  omega

end

/-- How what arrives depends on the amount. -/
structure RoundsUp (arrives : Uint256 → Uint256 → Prop) (feeBps denominator : Uint256) : Prop where
  /-- Something arrives of every amount whose parts have 256 bits at most. -/
  total : ∀ amount, amount.val * feeBps.val < Word.count → ∃ received, arrives amount received
  /-- The rest of the amount arrives, rounded up. -/
  rounded : ∀ amount received, arrives amount received →
    received.val = amount.val * (denominator.val - feeBps.val) ⌈/⌉ denominator.val ∧ received.val ≤ amount.val
  positive : ∀ amount received, arrives amount received → 0 < amount.val → feeBps.val < denominator.val →
    0 < received.val
  monotone : ∀ less received more receivedMore,
    arrives less received → arrives more receivedMore → less.val ≤ more.val →
    received.val ≤ receivedMore.val
  /-- Two parts that are sent apart bring what the whole brings, or one unit more. -/
  split : ∀ a b whole received, whole.val = a.val + b.val → arrives whole received →
    ∃ receivedA receivedB, arrives a receivedA ∧ arrives b receivedB ∧
      (receivedA.val + receivedB.val = received.val ∨ receivedA.val + receivedB.val = received.val + 1)

section

variable {reader : Reader} {controller rebalancer oft : Address} {feeBps denominator : Uint256}

/-- What arrives depends on the amount as a fee that is rounded down makes it. -/
theorem roundsUp (h : Routed reader controller rebalancer oft feeBps denominator) (hpos : 0 < denominator.val)
    (hpart : feeBps.val ≤ denominator.val) : RoundsUp (Arrives reader controller rebalancer) feeBps denominator where
  total amount hfits := exists_arrives h hpos hpart hfits
  rounded amount received harrives := by
    rw [harrives.eq_sub h]
    exact ⟨sub_fee_eq_ceilDiv hpos hpart, Nat.sub_le _ _⟩
  positive amount received harrives hamount hless := by
    rw [harrives.eq_sub h]
    exact Nat.sub_pos_of_lt (fee_lt hamount hless)
  monotone less received more receivedMore harrives hmore hle := by
    rw [harrives.eq_sub h, hmore.eq_sub h]
    exact sub_fee_le_sub_fee hpos hpart hle
  split a b whole received hwhole harrives := by
    have hfits := (harrives.charged h).fits
    have ha : a.val * feeBps.val ≤ whole.val * feeBps.val := Nat.mul_le_mul_right _ (by omega)
    have hb : b.val * feeBps.val ≤ whole.val * feeBps.val := Nat.mul_le_mul_right _ (by omega)
    obtain ⟨receivedA, hreceivedA⟩ := exists_arrives h hpos hpart (Nat.lt_of_le_of_lt ha hfits)
    obtain ⟨receivedB, hreceivedB⟩ := exists_arrives h hpos hpart (Nat.lt_of_le_of_lt hb hfits)
    refine ⟨receivedA, receivedB, hreceivedA, hreceivedB, ?_⟩
    rw [hreceivedA.eq_sub h, hreceivedB.eq_sub h, harrives.eq_sub h, hwhole]
    exact sub_fee_add hpos hpart a.val b.val

/-- On a route, an amount is refused for what is wrong with it, or the fee and what arrives make it up, in whatever
batch it is sent; and when the fee is a part of the amount, what arrives is rounded up. -/
theorem rebalancing_exact (h : Routed reader controller rebalancer oft feeBps denominator) :
    (∀ amount, ∃ result, Charged oft amount feeBps denominator result ∧
      (∀ usdt caches, outcome reader caches (callEvents controller usdt (.rebalanceUsdt rebalancer amount)) =
        result.map fun received => ([.usdtRebalanced amount received rebalancer], caches)) ∧
      rebalancingPlan reader controller rebalancer amount =
        (result.map fun received => [.usdtRebalanced amount received rebalancer]).mapError
          (Error.call "rebalanceUsdt")) ∧
    (∀ amount, (∃ error, rebalancingPlan reader controller rebalancer amount = .error error) ↔
      Refused amount feeBps denominator) ∧
    (∀ amount received, Arrives reader controller rebalancer amount received →
      received.val + amount.val * feeBps.val / denominator.val = amount.val) ∧
    (0 < denominator.val → feeBps.val ≤ denominator.val →
      RoundsUp (Arrives reader controller rebalancer) feeBps denominator) := by
  refine ⟨fun amount => ?_, fun amount => ?_, fun amount received harrives => ?_, roundsUp h⟩
  · exact ⟨afterFee oft amount feeBps denominator, charged_afterFee oft amount feeBps denominator,
      fun usdt caches => outcome_rebalanceUsdt h usdt caches amount, rebalancingPlan_eq h amount⟩
  · rw [← (charged_afterFee oft amount feeBps denominator).refused_iff, rebalancingPlan_eq h]
    cases afterFee oft amount feeBps denominator with
    | error cause => simp [Except.map, Except.mapError]
    | ok received => simp [Except.map, Except.mapError]
  · exact (harrives.charged h).sum_eq

end

/-! ## Samples -/

/-- The answers for a route through the account of zeros: numbers for its fee, and zeros for all else. -/
def routeAnswer (feeBps denominator : Uint256) (calldata : Bytes) : Bytes :=
  if calldata = readCall Signature.feeBps then feeBps.toWord.bytes
  else if calldata = readCall Signature.bpsDenominator then denominator.toWord.bytes
  else if calldata.length = 36 then (Abi.ofLength 32).bytes ++ Abi.ofBytes (List.replicate 96 0)
  else List.replicate 32 0

/-- The reader that answers with `routeAnswer` wherever a contract is asked. -/
def routeReader (feeBps denominator : Uint256) : Reader
  | .deployed _ => .ok false
  | .contract _ calldata => .ok (routeAnswer feeBps denominator calldata)

/-- The reads of a route are told apart by their calldata. -/
theorem readCall_route_ne : readCall Signature.usdt ≠ readCall Signature.feeBps ∧
    readCall Signature.usdt ≠ readCall Signature.bpsDenominator ∧
    readCall Signature.bpsDenominator ≠ readCall Signature.feeBps := by
  have hinjective := Question.read_injective sampleAccount
  refine ⟨fun h => ?_, fun h => ?_, fun h => ?_⟩
  · exact hinjective.ne (show Question.usdt ≠ .feeBps sampleAccount from nofun)
      (congrArg (Read.contract sampleAccount) h)
  · exact hinjective.ne (show Question.usdt ≠ .bpsDenominator sampleAccount from nofun)
      (congrArg (Read.contract sampleAccount) h)
  · exact hinjective.ne (show Question.bpsDenominator sampleAccount ≠ .feeBps sampleAccount from nofun)
      (congrArg (Read.contract sampleAccount) h)

/-- The sample reader answers what is read of a route with these numbers. -/
theorem routed_routeReader (feeBps denominator : Uint256) :
    Routed (routeReader feeBps denominator) sampleAccount sampleAccount sampleAccount feeBps denominator where
  usdt := by
    have hlength : (readCall Signature.usdt).length = 4 := Abi.length_call _ _
    have hanswer : routeAnswer feeBps denominator (readCall Signature.usdt) = List.replicate 32 0 := by
      simp [routeAnswer, readCall_route_ne, hlength]
    exact ⟨_, sampleAccount, rfl, by rw [hanswer]; rfl⟩
  payload := by
    have hlength : (addressReadCall Signature.payloadFor sampleAccount).length = 36 := Abi.length_call _ _
    have hne (signature : String) : addressReadCall Signature.payloadFor sampleAccount ≠ readCall signature := by
      intro h
      have hread : (readCall signature).length = 4 := Abi.length_call _ _
      rw [h, hread] at hlength
      cases hlength
    have hanswer : routeAnswer feeBps denominator (addressReadCall Signature.payloadFor sampleAccount) =
        (Abi.ofLength 32).bytes ++ Abi.ofBytes (List.replicate 96 0) := by
      simp [routeAnswer, hne, hlength]
    exact ⟨_, List.replicate 96 0, rfl, by rw [hanswer]; exact Abi.bytesOf_ofBytes (by decide), by decide, rfl⟩
  feeBps := ⟨_, rfl, by rw [routeAnswer, if_pos rfl, Abi.uint256Of_toWord]⟩
  denominator := ⟨_, rfl, by rw [routeAnswer, if_neg readCall_route_ne.2.2, if_pos rfl, Abi.uint256Of_toWord]⟩

/-- Half of an amount, in ten thousandths. -/
def half : Uint256 := ⟨5000, by decide⟩

/-- The parts that a fee is counted in. -/
def tenThousand : Uint256 := ⟨10000, by decide⟩

/-- A fee of a half takes nothing of one unit and one of two: two units that are sent apart bring one more than both at
once. -/
theorem rebalancing_exact_sample :
    Routed (routeReader half tenThousand) sampleAccount sampleAccount sampleAccount half tenThousand ∧
      Arrives (routeReader half tenThousand) sampleAccount sampleAccount .one .one ∧
      Arrives (routeReader half tenThousand) sampleAccount sampleAccount ⟨2, by decide⟩ .one := by
  have hroute := routed_routeReader half tenThousand
  obtain ⟨-, -, hsum, hpart⟩ := rebalancing_exact hroute
  have hrounds := hpart (by decide) (by decide)
  have hone (amount : Uint256) (hfits : amount.val * 5000 < Word.count)
      (hleft : amount.val - amount.val * 5000 / 10000 = 1) :
      Arrives (routeReader half tenThousand) sampleAccount sampleAccount amount .one := by
    obtain ⟨received, harrives⟩ := hrounds.total amount hfits
    have hreceived : received.val + amount.val * 5000 / 10000 = amount.val := hsum amount received harrives
    have hval : received.val = 1 := by omega
    obtain rfl : received = .one := Uint256.ext hval
    exact harrives
  exact ⟨hroute, hone .one (by decide) (by decide), hone ⟨2, by decide⟩ (by decide) (by decide)⟩

/-- A fee of no parts in none is refused, though it is no more than the whole and needs no room. -/
theorem zero_denominator_refuses :
    Routed (routeReader .zero .zero) sampleAccount sampleAccount sampleAccount .zero .zero ∧
      Uint256.zero.val ≤ Uint256.zero.val ∧ Uint256.zero.val * Uint256.zero.val < Word.count ∧
      rebalancingPlan (routeReader .zero .zero) sampleAccount sampleAccount .zero =
        .error (.call "rebalanceUsdt" (.zeroDenominator sampleAccount)) :=
  ⟨routed_routeReader .zero .zero, Nat.le_refl _, by decide, rebalancingPlan_eq (routed_routeReader .zero .zero) .zero⟩

end CheckpointRelay.Plan
