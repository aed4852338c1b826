import CheckpointRelay.Proofs.Plan.Fee
import CheckpointRelay.Proofs.Plan.Questions
import CheckpointRelay.Proofs.Plan.Remembered

/-!
# Planning is executing

A plan is made with one read for each thing it needs and with what earlier calls change kept beside what was read.
`Follows` says that a step of planning comes out as an execution on the state that the caches show. Sweeps, rebalancings
and calls all follow their executions, so the plan of a batch is what the execution of the batch on the chain emits
(`events_refine_execution`).
-/

namespace CheckpointRelay.Plan

/-- A step of planning comes out as an execution does: with its result and with caches that show the state after it, or
not at all when it reverts. -/
inductive Follows {α : Type} (reader : Reader) (chain : Chain) (known : List Word) (caches : Caches) (step : PlanM α) :
    Option (α × Chain) → Prop
  | goes {a : α} {caches' : Caches} {after : Chain} (h : outcome reader caches step = .ok (a, caches'))
      (hc : caches'.Agree chain known) (hover : caches'.over chain = after) :
      Follows reader chain known caches step (some (a, after))
  | reverts {cause : Cause} (h : outcome reader caches step = .error cause) :
      Follows reader chain known caches step none

section

variable {α β : Type} {reader : Reader} {chain : Chain} {controller : Address} {calls : List ControllerCall}
  {caches : Caches} {known known' : List Word} {step : PlanM α} {next : α → PlanM β}

/-- Returning a value runs nothing. -/
theorem follows_pure (hc : caches.Agree chain known) (a : α) :
    Follows reader chain known caches (pure a) (some (a, caches.over chain)) :=
  .goes (outcome_pure a) hc rfl

/-- What follows a refusal does not matter. -/
theorem follows_throw (cause : Cause) : Follows reader chain known caches (throw cause >>= next) none :=
  .reverts (outcome_bind_of_error (outcome_throw cause))

/-- A step that comes out is followed by the rest, from its caches. -/
theorem follows_bind_of_ok {a : α} {caches' : Caches} {result : Option (β × Chain)}
    (hout : outcome reader caches step = .ok (a, caches')) (h : Follows reader chain known caches' (next a) result) :
    Follows reader chain known caches (step >>= next) result := by
  cases h with
  | goes h hc hover => exact .goes ((outcome_bind_of_ok hout).trans h) hc hover
  | reverts h => exact .reverts ((outcome_bind_of_ok hout).trans h)

/-- A read is followed by the rest, from the same state. -/
theorem Gives.bind {a : α} {result : Option (β × Chain)} (h : Gives reader chain known caches step a)
    
    (hnext : ∀ caches', caches'.Agree chain known → caches'.over chain = caches.over chain →
      Follows reader chain known' caches' (next a) result) :
    Follows reader chain known' caches (step >>= next) result := by
  obtain ⟨caches', hout, hc, hover⟩ := h
  exact follows_bind_of_ok hout (hnext caches' hc hover)

/-- A step that follows an execution is followed by the rest, from the state after it. -/
theorem Follows.bind {result : Option (α × Chain)} {rest : α × Chain → Option (β × Chain)}
    (h : Follows reader chain known caches step result)
    (hnext : ∀ a caches', caches'.Agree chain known →
      Follows reader chain known' caches' (next a) (rest (a, caches'.over chain))) :
    Follows reader chain known' caches (step >>= next) (result >>= rest) := by
  cases h with
  | @goes a caches' after hout hc hover =>
    subst hover
    exact follows_bind_of_ok hout (hnext a caches' hc)
  | reverts hout => exact .reverts (outcome_bind_of_error hout)

/-! ## Sweeps -/

/-- A contract that is there already is not made again. -/
theorem deploy_of_deployed {account : Address} (h : chain.deployed account = true) : chain.deploy account = chain := by
  have hdeployed : (fun a => if a = account then true else chain.deployed a) = chain.deployed := by
    funext a
    by_cases ha : a = account
    · rw [if_pos ha, ha, h]
    · rw [if_neg ha]
  rw [Chain.deploy, hdeployed]

/-- The worth of a sweep is computed as the chain computes it. -/
theorem worth?_eq (chain : Chain) (token : Address) (rate amount : Uint256) :
    worth? (decide (token = chain.usdt)) rate amount = chain.worth token rate amount := by
  unfold worth? Chain.worth Uint256.mul? Uint256.ofNat?
  by_cases htoken : token = chain.usdt
  · rw [if_pos htoken, if_pos (decide_eq_true htoken)]
  · rw [if_neg htoken, if_neg (by rw [decide_eq_false htoken]; exact Bool.false_ne_true)]
    by_cases hlt : amount.val * rate.val < Word.count
    · rw [dif_pos hlt, dif_pos hlt]
      rfl
    · rw [dif_neg hlt, dif_neg hlt]
      rfl

/-- Remembering that a receiver was swept is sweeping it. -/
theorem follows_swept (hc : caches.Agree chain known) (token account : Address) (events : List Event) :
    Follows reader chain known caches
      (do
        modify fun caches => { caches with balances := ((token, account), .one) :: caches.balances }
        pure events)
      (some (events, (caches.over chain).setBalance token account .one)) :=
  .goes (outcome_bind_of_ok (outcome_modify _)) ⟨hc.receivers, hc.known, hc.rates⟩ (over_setBalance token account .one)

/-- Planning the sweep of one receiver follows its execution. -/
theorem follows_sweep (h : reader.Answers chain controller calls) (hc : caches.Agree chain known) (token : Address)
    (rate : Uint256) {salt : Word} (hsalt : salt ∈ known) :
    Follows reader chain known caches (sweep (decide (token = chain.usdt)) token rate salt)
      (Chain.sweep token rate salt (caches.over chain)) := by
  unfold sweep Chain.sweep
  refine (gives_receiverOf hc hsalt).bind fun caches₁ hc₁ hover₁ => ?_
  rw [← hover₁]
  refine (gives_balanceOf h hc₁ token _).bind fun caches₂ hc₂ hover₂ => ?_
  rw [← hover₂]
  dsimp only
  have hreceiver : (caches₂.over chain).receiver salt = chain.receiver salt := rfl
  rw [hreceiver]
  generalize (caches₂.over chain).balance token (chain.receiver salt) = balance
  generalize chain.receiver salt = receiver
  by_cases hbalance : 1 < balance.val
  · have hpred : ¬balance.pred.val = 0 := Nat.sub_ne_zero_of_lt hbalance
    rw [if_neg hpred, if_pos hbalance]
    refine (gives_isDeployed h hc₂ receiver).bind fun caches₃ hc₃ hover₃ => ?_
    have hworth : (caches₃.over chain).worth token rate balance.pred = chain.worth token rate balance.pred := rfl
    rw [← hover₃, worth?_eq, hworth]
    -- Whether the receiver is made or not, the rest depends on the worth alone.
    cases hdeployed : (caches₃.over chain).deployed receiver with
    | false =>
      have hc₄ : Caches.Agree { caches₃ with deployed := (receiver, true) :: caches₃.deployed } chain known :=
        ⟨hc₃.receivers, hc₃.known, hc₃.rates⟩
      refine follows_bind_of_ok (outcome_modify _) ?_
      rw [← over_deploy]
      cases chain.worth token rate balance.pred with
      | none => exact .reverts (outcome_throw _)
      | some worth => exact follows_swept hc₄ token receiver _
    | true =>
      rw [deploy_of_deployed hdeployed]
      cases chain.worth token rate balance.pred with
      | none => exact .reverts (outcome_throw _)
      | some worth => exact follows_swept hc₃ token receiver _
  · have hpred : balance.pred.val = 0 := Nat.sub_eq_zero_of_le (Nat.le_of_not_lt hbalance)
    rw [if_pos hpred, if_neg hbalance]
    exact follows_pure hc₂ []

/-- Sweeps follow one another, on the chain as in the plan. -/
theorem follows_sweepAll (h : reader.Answers chain controller calls) (token : Address) (rate : Uint256)
    {salts : List Word} (hsalts : salts ⊆ known) (hc : caches.Agree chain known) :
    Follows reader chain known caches (sweepAll (decide (token = chain.usdt)) token rate salts)
      (Chain.sweepAll token rate salts (caches.over chain)) := by
  induction salts generalizing caches with
  | nil => exact follows_pure hc []
  | cons salt rest ih =>
    obtain ⟨hsalt, hrest⟩ := List.cons_subset.mp hsalts
    refine (follows_sweep h hc token rate hsalt).bind fun events caches₁ hc₁ => ?_
    refine (ih hrest hc₁).bind fun more caches₂ hc₂ => ?_
    exact follows_pure hc₂ (events ++ more)

/-- What a sweep call does once its rate is known. -/
theorem follows_pullAt (h : reader.Answers chain controller calls) (hc : caches.Agree chain known) {token : Address}
    {salts : List Word} (hcall : .pullFromReceivers token salts ∈ calls) (rate : Uint256) :
    Follows reader chain salts caches
      (do
        if rate.val = 0 then throw (.noRate token)
        predictReceivers controller salts
        sweepAll (decide (token = chain.usdt)) token rate salts)
      (if rate.val = 0 then none else Chain.sweepAll token rate salts (caches.over chain)) := by
  by_cases hzero : rate.val = 0
  · rw [if_pos hzero, if_pos hzero]
    exact follows_throw (.noRate token)
  · rw [if_neg hzero, if_neg hzero]
    refine (gives_predictReceivers h hc hcall).bind fun caches₁ hc₁ hover₁ => ?_
    rw [← hover₁]
    exact follows_sweepAll h token rate (List.Subset.refl salts) hc₁

/-- Planning a pull follows its execution. -/
theorem follows_pull (h : reader.Answers chain controller calls) (hc : caches.Agree chain known) {token : Address}
    {salts : List Word} (hcall : .pullFromReceivers token salts ∈ calls) :
    Follows reader chain salts caches (pull controller chain.usdt token salts)
      (Chain.execute (.pullFromReceivers token salts) (caches.over chain)) := by
  have hrate : (caches.over chain).sweepRate token = chain.sweepRate token := rfl
  rw [Chain.execute, hrate]
  unfold pull
  by_cases hempty : salts = []
  · rw [if_pos hempty, if_pos (Or.inl hempty)]
    exact follows_throw .noSalts
  · simp only [hempty, false_or, if_false]
    by_cases htoken : token = chain.usdt
    · have husdt : chain.sweepRate token = rateScale := if_pos htoken
      rw [if_pos (decide_eq_true htoken), husdt]
      refine (gives_pure hc rateScale).bind fun caches₁ hc₁ hover₁ => ?_
      rw [← hover₁]
      exact follows_pullAt h hc₁ hcall rateScale
    · have hother : chain.sweepRate token = chain.rate token := if_neg htoken
      rw [if_neg (by rw [decide_eq_false htoken]; exact Bool.false_ne_true), hother]
      refine (gives_rateOf h hc token).bind fun caches₁ hc₁ hover₁ => ?_
      rw [← hover₁]
      exact follows_pullAt h hc₁ hcall (chain.rate token)

/-! ## Rebalancings -/

/-- A payload is read as a route exactly when it is one. -/
theorem toOption_route (payload : Bytes) :
    (Abi.wordOf payload 2 >>= fun _ => Abi.addressOf payload 0).toOption = Chain.route payload := by
  have hthird : Abi.wordOf payload 2 = Abi.wordAt payload 64 := rfl
  have hfirst : Abi.wordOf payload 0 = Abi.wordAt payload 0 := rfl
  rw [hthird, Abi.wordAt]
  by_cases hlength : 96 ≤ payload.length
  · have htake : ((payload.drop 0).take 32).take 12 = payload.take 12 := by rw [List.drop_zero, List.take_take]; rfl
    have hdrop : ((payload.drop 0).take 32).drop 12 = (payload.drop 12).take 20 := by
        rw [List.drop_zero, List.drop_take]
    rw [dif_pos hlength, Result.ok_bind, Abi.addressOf, hfirst, Abi.wordAt,
      dif_pos (show 0 + 32 ≤ payload.length by omega), Result.ok_bind]
    dsimp only
    by_cases hclean : payload.take 12 = List.replicate 12 0
    · rw [if_pos (htake.trans hclean), Chain.route, dif_pos ⟨hlength, hclean⟩]
      exact congrArg (fun account : Octets 20 => some (Address.mk account)) (Octets.ext hdrop)
    · rw [if_neg (fun h => hclean (htake.symm.trans h)), Chain.route, dif_neg (fun h => hclean h.2)]
      rfl
  · rw [dif_neg hlength, Chain.route, dif_neg (fun h => hlength h.1)]
    rfl

/-- The fee of a route is computed as the chain computes it. -/
theorem toOption_afterFee (chain : Chain) (oft : Address) (amount : Uint256) :
    (afterFee oft amount (chain.feeBps oft) (chain.bpsDenominator oft)).toOption = chain.afterFee oft amount := by
  have hcharged := charged_afterFee oft amount (chain.feeBps oft) (chain.bpsDenominator oft)
  unfold Chain.afterFee
  generalize afterFee oft amount (chain.feeBps oft) (chain.bpsDenominator oft) = result at hcharged
  cases hcharged with
  | zeroDenominator hzero =>
    rw [if_pos (.inl hzero)]
    rfl
  | overflow hpos hwide =>
    rw [if_pos (.inr (.inl hwide))]
    rfl
  | exceeds hpos hfits hfee hlt =>
    rw [hfee] at hlt
    rw [if_pos (.inr (.inr hlt))]
    rfl
  | arrives hpos hfits hsum =>
    rw [if_neg (by omega)]
    exact congrArg some (Uint256.ext (by simp only; omega))

/-- Planning a rebalancing follows its execution. -/
theorem follows_rebalanced (h : reader.Answers chain controller calls) (hc : caches.Agree chain known)
    (rebalancer : Address) (amount : Uint256) :
    Follows reader chain known caches (rebalanced controller rebalancer amount)
      (do
        let oft ← Chain.route (chain.payload rebalancer)
        let received ← chain.afterFee oft amount
        some (received, caches.over chain)) := by
  unfold rebalanced
  refine follows_bind_of_ok (outcome_readContract (h.payload rebalancer)) ?_
  rw [h.bytesOf_payload rebalancer]
  refine follows_bind_of_ok (outcome_ofDecoded _ _) ?_
  -- the planner tests for emptiness, then reads the third word, then the first; the chain looks at the payload once
  have hroute := toOption_route (chain.payload rebalancer)
  generalize chain.payload rebalancer = payload at hroute
  by_cases hempty : payload = []
  · have hnone : Chain.route payload = none := by rw [hempty]; rfl
    rw [if_pos hempty, hnone]
    exact follows_throw (.noRoute rebalancer)
  rw [if_neg hempty, ← hroute]
  cases hword : Abi.wordOf payload 2 with
  | error cause => exact .reverts (outcome_bind_of_error rfl)
  | ok word =>
    rw [Result.ok_bind]
    refine follows_bind_of_ok (outcome_ofDecoded _ _) ?_
    cases haddress : Abi.addressOf payload 0 with
    | error cause => exact .reverts (outcome_bind_of_error rfl)
    | ok oft =>
      refine follows_bind_of_ok (outcome_ofDecoded _ _) ?_
      refine follows_bind_of_ok (outcome_readNumber (h.feeBps oft)) ?_
      refine follows_bind_of_ok (outcome_readNumber (h.bpsDenominator oft)) ?_
      have hfee := toOption_afterFee chain oft amount
      have hreturn : (Except.ok oft : Except Abi.DecodeError Address).toOption = some oft := rfl
      rw [hreturn, Option.bind_eq_bind, Option.bind_some, ← hfee]
      cases afterFee oft amount (chain.feeBps oft) (chain.bpsDenominator oft) with
      | error cause => exact .reverts (outcome_throw cause)
      | ok received => exact follows_pure hc received

/-! ## Calls -/

/-- The receivers that a call has learned are of use to later calls, but none of them counts on it. -/
theorem Follows.forget {result : Option (α × Chain)} (h : Follows reader chain known caches step result) :
    Follows reader chain [] caches step result := by
  cases h with
  | goes h hc hover => exact .goes h ⟨hc.receivers, nofun, hc.rates⟩ hover
  | reverts h => exact .reverts h

/-- Planning a call follows its execution. -/
theorem follows_callEvents (h : reader.Answers chain controller calls) (hc : caches.Agree chain [])
    {call : ControllerCall} (hcall : call ∈ calls) :
    Follows reader chain [] caches (callEvents controller chain.usdt call)
      (Chain.execute call (caches.over chain)) := by
  cases call with
  | pullFromReceivers token salts => exact (follows_pull h hc hcall).forget
  | rebalanceUsdt rebalancer amount =>
    have hexecute : Chain.execute (.rebalanceUsdt rebalancer amount) (caches.over chain) =
        (do
          let oft ← Chain.route (chain.payload rebalancer)
          let received ← chain.afterFee oft amount
          some (received, caches.over chain)) >>= fun r => some ([.usdtRebalanced amount r.1 rebalancer], r.2) := by
      rw [bind_assoc]
      refine bind_congr fun oft => ?_
      rw [bind_assoc]
      rfl
    rw [hexecute]
    refine (follows_rebalanced h hc rebalancer amount).bind fun received caches₁ hc₁ => ?_
    exact follows_pure hc₁ _
  | isEventChainTip tip => exact follows_pure hc []

/-- The events of a call stand in front of those of the rest, in the plan as on the chain. -/
theorem toOption_append {plan : Except Error (List Event)} {result : Option (List Event × Chain)} (events : List Event)
    (h : plan.toOption = result.map Prod.fst) :
    (plan >>= fun more => pure (events ++ more)).toOption =
      (result >>= fun r => some (events ++ r.1, r.2)).map Prod.fst := by
  cases plan with
  | error cause =>
    have hnone : result = none := Option.map_eq_none_iff.mp h.symm
    rw [hnone]
    rfl
  | ok more =>
    obtain ⟨last, hlast, hmore⟩ := Option.map_eq_some_iff.mp h.symm
    rw [hlast, ← hmore]
    rfl

/-- The plan of the rest of a batch, from caches that show a state, is what the rest emits on that state. -/
theorem toOption_batchEvents (h : reader.Answers chain controller calls) (hc : caches.Agree chain [])
    {rest : List ControllerCall} (hrest : rest ⊆ calls) :
    ((batchEvents controller chain.usdt caches rest).run.answered reader).toOption =
      (Chain.executeAll rest (caches.over chain)).map Prod.fst := by
  -- over the calls that are left; the caches agree with the chain before each of them
  induction rest generalizing caches with
  | nil => rfl
  | cons call rest ih =>
    obtain ⟨hcall, hrest⟩ := List.cons_subset.mp hrest
    have hplan : (callEvents controller chain.usdt call caches).run.answered reader =
        outcome reader caches (callEvents controller chain.usdt call) := rfl
    have hfollows := follows_callEvents h hc hcall
    rw [batchEvents, Dialogue.answered_except_bind, Dialogue.answered_adapt, hplan, Chain.executeAll]
    generalize Chain.execute call (caches.over chain) = result at hfollows
    cases hfollows with
    | reverts hout =>
      rw [hout]
      rfl
    | @goes events caches' after hout hc' hover =>
      have happend := toOption_append events (ih hc' hrest)
      rw [hover] at happend
      rw [hout]
      refine Eq.trans ?_ happend
      exact congrArg Except.toOption (Dialogue.answered_except_bind _ _)

/-- The plan of a batch is that of its calls, made from nothing that has been read but the USDT token. -/
theorem answered_events (h : reader.Answers chain controller calls) :
    (events controller calls).run.answered reader =
      (batchEvents controller chain.usdt {} calls).run.answered reader := by
  have husdt : Abi.addressOf (Abi.ofAddress chain.usdt).bytes 0 = .ok chain.usdt :=
    Abi.addressOf_of_standsAt (by rw [(Abi.ofAddress _).length_eq]; decide) (.self _)
  rw [events, Dialogue.answered_except_bind, Dialogue.answered_mk, Dialogue.answered_bind, Dialogue.answered_question,
    Dialogue.answered_done, h.usdt]
  refine (Dialogue.answered_except_bind _ _).trans ?_
  rw [Dialogue.answered_mk, Dialogue.answered_done, husdt]
  rfl

/-- Nothing has been read yet, and nothing is changed. -/
theorem agree_empty : Caches.Agree {} chain [] := ⟨nofun, nofun, nofun⟩

/-- Empty caches show the chain itself. -/
theorem over_empty : Caches.over {} chain = chain := rfl

end

/-- The plan of a batch is the events that its execution on the chain emits, and there is no plan exactly when the
execution reverts. -/
theorem events_refine_execution {reader : Reader} {chain : Chain} {controller : Address} {calls : List ControllerCall}
    (h : reader.Answers chain controller calls) :
    ((events controller calls).run.answered reader).toOption = (chain.executeAll calls).map Prod.fst := by
  rw [answered_events h, toOption_batchEvents h agree_empty (List.Subset.refl calls), over_empty]

/-! ## A sample -/

/-- The number two at the scale of rates. -/
def sampleNumber : Uint256 :=
  ⟨2000000000000000000, by decide⟩

/-- The account that a word of zeros writes. -/
def sampleAccount : Address :=
  ⟨Octets.ofNat 20 0⟩

/-- A chain on which all numbers are the same, all salts have the same receiver, which is not there yet, and all routes
the same contract. -/
def sampleChain : Chain :=
  { usdt := ⟨⟨sampleNumber.toWord.bytes.drop 12, by rw [List.length_drop, sampleNumber.toWord.length_eq]⟩⟩
    rate := fun _ => sampleNumber
    balance := fun _ _ => sampleNumber
    deployed := fun _ => false
    receiver := fun _ => sampleAccount
    payload := fun _ => List.replicate 96 0
    feeBps := fun _ => sampleNumber
    bpsDenominator := fun _ => sampleNumber }

/-- Two salts are swept, whose receiver is the same, and an amount goes through a route that keeps all of it. -/
def sampleCalls : List ControllerCall :=
  [.pullFromReceivers sampleAccount [Octets.ofNat 32 1, Octets.ofNat 32 2], .rebalanceUsdt sampleAccount .one]

/-- The answers of that chain to calldata. A batch that asks for receivers is told by its length. -/
def sampleAnswer (calldata : Bytes) : Bytes :=
  if 36 < calldata.length then
    (Abi.ofLength 32).bytes ++
      Abi.ofBytesArray (List.replicate (min 2 ((calldata.length - 68) / 128)) (Abi.ofAddress sampleAccount).bytes)
  else if calldata.length = 36 ∧ calldata.take 4 = (Abi.selector Signature.payloadFor).bytes then
    sampleChain.encodedPayload sampleAccount
  else sampleNumber.toWord.bytes

/-- The reader that answers for the sample chain. -/
def sampleReader : Reader
  | .deployed _ => .ok false
  | .contract _ calldata => .ok (sampleAnswer calldata)

/-- The sample chain answers a question without arguments with its number. -/
theorem sampleAnswer_readCall (signature : String) : sampleAnswer (readCall signature) = sampleNumber.toWord.bytes := by
  have hlength : (readCall signature).length = 4 := Abi.length_call _ _
  rw [sampleAnswer, hlength, if_neg (by decide), if_neg (by rintro ⟨h, -⟩; cases h)]

/-- It answers a question about an address with its number, unless that asks for a route. -/
theorem sampleAnswer_addressReadCall {signature : String} (a : Address)
    (hne : (Abi.selector signature).bytes ≠ (Abi.selector Signature.payloadFor).bytes) :
    sampleAnswer (addressReadCall signature a) = sampleNumber.toWord.bytes := by
  have hlength : (addressReadCall signature a).length = 36 := Abi.length_call _ _
  rw [sampleAnswer, hlength, if_neg (by decide), take_addressReadCall, if_neg fun h => hne h.2]

/-- It answers the question for a route with its one contract. -/
theorem sampleAnswer_payloadFor (a : Address) :
    sampleAnswer (addressReadCall Signature.payloadFor a) = sampleChain.encodedPayload sampleAccount := by
  have hlength : (addressReadCall Signature.payloadFor a).length = 36 := Abi.length_call _ _
  rw [sampleAnswer, hlength, if_neg (by decide), take_addressReadCall, if_pos ⟨rfl, rfl⟩]

/-- It answers a question for the receivers of at most two salts with its one receiver. -/
theorem sampleAnswer_predictionCall {salts : List Word} (h : salts.length ≤ 2) :
    sampleAnswer (predictionCall salts) = sampleChain.encodedReceivers salts := by
  have hcount : min 2 ((68 + 128 * salts.length - 68) / 128) = salts.length := by omega
  have hreceivers : salts.map (fun salt => (Abi.ofAddress (sampleChain.receiver salt)).bytes) =
      List.replicate salts.length (Abi.ofAddress sampleAccount).bytes := by
    show salts.map (fun _ => (Abi.ofAddress sampleAccount).bytes) = _
    exact List.map_const'
  rw [sampleAnswer, length_predictionCall, if_pos (by omega), hcount, Chain.encodedReceivers, hreceivers]

/-- Its answers are of a possible length. -/
theorem length_sampleAnswer_lt (calldata : Bytes) : (sampleAnswer calldata).length < Bytes.maxLength := by
  unfold sampleAnswer
  split
  · generalize min 2 ((calldata.length - 68) / 128) = n, Nat.min_le_left 2 ((calldata.length - 68) / 128) = hn
    have hitems : ∀ item ∈ List.replicate n (Abi.ofAddress sampleAccount).bytes, item.length = 32 := by
      intro item hitem
      rw [List.eq_of_mem_replicate hitem]
      exact (Abi.ofAddress sampleAccount).length_eq
    have hpadded : Abi.paddedLength 32 = 32 := rfl
    rw [List.length_append, (Abi.ofLength 32).length_eq, Abi.length_ofBytesArray hitems, hpadded, List.length_replicate]
    unfold Bytes.maxLength
    omega
  · split
    · have hpayload : (sampleChain.payload sampleAccount).length = 96 := List.length_replicate
      rw [Chain.encodedPayload, List.length_append, (Abi.ofLength 32).length_eq, Abi.length_ofBytes, hpayload]
      decide
    · rw [sampleNumber.toWord.length_eq]
      decide

/-- Neither rates nor balances are asked for by the selector of routes. -/
theorem selector_ne_payloadFor :
    (Abi.selector Signature.lpExchangeRateFor).bytes ≠ (Abi.selector Signature.payloadFor).bytes ∧
      (Abi.selector Signature.balanceOf).bytes ≠ (Abi.selector Signature.payloadFor).bytes := by
  have hne : ∀ i < 7, i ≠ 4 → Question.selectors[i]? ≠ Question.selectors[4]? :=
    fun i hi hne h => hne ((List.getElem?_inj hi Question.nodup_selectors).mp h)
  exact ⟨fun h => hne 2 (by decide) (by decide) (congrArg some h),
    fun h => hne 1 (by decide) (by decide) (congrArg some h)⟩

/-- The sample reader answers with the state of the sample chain. -/
theorem sampleReader_answers : sampleReader.Answers sampleChain sampleAccount sampleCalls where
  usdt := congrArg Except.ok (sampleAnswer_readCall _)
  rate _ := congrArg Except.ok (sampleAnswer_addressReadCall _ selector_ne_payloadFor.1)
  balance _ _ := congrArg Except.ok (sampleAnswer_addressReadCall _ selector_ne_payloadFor.2)
  deployed _ := rfl
  receivers _ salts asked hcall hasked hnodup := by
    have hlength : salts.length = 2 := by
      simp only [sampleCalls, List.mem_cons, ControllerCall.pullFromReceivers.injEq, reduceCtorEq, List.not_mem_nil,
        or_false] at hcall
      rw [hcall.2]
      rfl
    exact congrArg Except.ok (sampleAnswer_predictionCall (hlength ▸ hnodup.length_le_of_subset hasked))
  payload _ := congrArg Except.ok (sampleAnswer_payloadFor _)
  feeBps _ := congrArg Except.ok (sampleAnswer_readCall _)
  bpsDenominator _ := congrArg Except.ok (sampleAnswer_readCall _)
  fits _ calldata data h := Except.ok.inj h ▸ length_sampleAnswer_lt calldata

/-- The second salt finds the receiver swept: it is made once and sweeps once. -/
theorem events_refine_execution_sample :
    sampleReader.Answers sampleChain sampleAccount sampleCalls ∧
      ((events sampleAccount sampleCalls).run.answered sampleReader).toOption = some
        [.receiverDeployed sampleAccount (Octets.ofNat 32 1),
          .pulledFromReceiver (Octets.ofNat 32 1) sampleAccount ⟨1999999999999999999, by decide⟩ sampleNumber
            ⟨3999999999999999998, by decide⟩,
          .usdtRebalanced .one .zero sampleAccount] :=
  ⟨sampleReader_answers, (events_refine_execution sampleReader_answers).trans rfl⟩

end CheckpointRelay.Plan
