import CheckpointRelay.Proofs.Plan.Learned
import CheckpointRelay.Proofs.Plan.Orderly
import Mathlib.Data.List.Forall2

/-!
# No receiver is swept or made twice in a plan

Whoever answers what planning asks, and even if the answers contradict each other: a token is swept from a receiver once
at most, however many salts have that receiver and however many calls sweep it, and a receiver is made once at most,
just before it is first swept. The caches carry this along a plan: what has been swept or made is remembered
(`Accounted`) and never forgotten (`Grows`).
-/

namespace CheckpointRelay.Plan

/-! ## Sweeping a receiver -/

/-- What sweeping the receiver of a salt emits, and what it leaves in the caches. -/
inductive Swept (token : Address) (salt : Word) (account : Address) (caches after : Caches) : List Event → Prop
  /-- Nothing is left to sweep. -/
  | nothing : Swept token salt account caches after []
  /-- All but one unit is swept, of a token that has not been swept from the receiver yet. If the receiver is not known
  to be there, it is made first. -/
  | swept {made : List Event} {amount : Uint256} (rate worth : Uint256) (hamount : 1 ≤ amount.val)
      (hfirst : caches.balances.lookup (token, account) ≠ some .one)
      (hmade : made = [] ∨ made = [.receiverDeployed account salt] ∧ caches.deployed.lookup account ≠ some true)
      (hswept : after.balances.lookup (token, account) = some .one)
      (hthere : after.deployed.lookup account = some true) :
      Swept token salt account caches after (made ++ [.pulledFromReceiver salt token amount rate worth])

section

variable {controller token account : Address} {salt : Word} {caches after : Caches} {tr : List Exchange} {isUsdt : Bool}
  {rate amount : Uint256} {made sweeps : List Event}

/-- What is worth more than 256 bits stops planning; otherwise the balance is set. -/
theorem yields_swept
    (h : Yields caches
      (match worth? isUsdt rate amount with
      | none => throw .amountOverflow
      | some worth => do
        modify fun caches => { caches with balances := ((token, account), .one) :: caches.balances }
        pure (made ++ [.pulledFromReceiver salt token amount rate worth])) tr sweeps after) :
    ∃ worth, tr = [] ∧ after = { caches with balances := ((token, account), .one) :: caches.balances } ∧
      sweeps = made ++ [.pulledFromReceiver salt token amount rate worth] := by
  cases hworth : worth? isUsdt rate amount with
  | none =>
    rw [hworth] at h
    exact absurd h not_yields_throw
  | some worth =>
    rw [hworth] at h
    obtain ⟨front, _, _, back, rfl, hmodify, hpure⟩ := yields_bind_iff.mp h
    obtain ⟨rfl, rfl⟩ := yields_modify_iff.mp hmodify
    obtain ⟨rfl, rfl, rfl⟩ := yields_pure_iff.mp hpure
    exact ⟨worth, rfl, rfl, rfl⟩

/-- A receiver that is made if it is not there is there afterwards. -/
theorem grows_written {deployed : Bool} {written : Caches} (h : Yields caches (isDeployed account) tr deployed after)
    (hwritten : written = if !deployed then { after with deployed := (account, true) :: after.deployed } else after) :
    Grows controller caches tr written ∧ written.deployed.lookup account = some true := by
  cases deployed with
  | true =>
    rw [hwritten]
    exact ⟨grows_isDeployed h, lookup_isDeployed h⟩
  | false =>
    have hgrows : Grows controller after [] { after with deployed := (account, true) :: after.deployed } :=
      grows_deployed unpredicting_nil true nofun
    have hall := (grows_isDeployed h).trans hgrows
    rw [List.append_nil] at hall
    rw [hwritten]
    exact ⟨hall, List.lookup_cons_self⟩

/-- A sweep finds the receiver of its salt. -/
theorem yields_sweep (h : Yields caches (sweep isUsdt token rate salt) tr sweeps after) :
    ∃ account, caches.receivers.lookup salt = some account ∧ Grows controller caches tr after ∧
      Swept token salt account caches after sweeps := by
  unfold sweep at h
  obtain ⟨front, account, middle, back, rfl, hreceiver, hbalance⟩ := yields_bind_iff.mp h
  obtain ⟨hfound, rfl, rfl⟩ := yields_receiverOf hreceiver
  obtain ⟨read, balance, known, back, rfl, hread, hrest⟩ := yields_bind_iff.mp hbalance
  have hknown : Grows controller middle read known := grows_balanceOf hread
  refine ⟨account, hfound, ?_⟩
  by_cases hamount : balance.pred.val = 0
  · rw [if_pos hamount] at hrest
    obtain ⟨rfl, rfl, rfl⟩ := yields_pure_iff.mp hrest
    rw [List.append_nil]
    exact ⟨hknown, .nothing⟩
  · rw [if_neg hamount] at hrest
    obtain ⟨asked, deployed, seen, last, rfl, hasked, hmaking⟩ := yields_bind_iff.mp hrest
    obtain ⟨written, hwritten, hswept⟩ := yields_modify_if hmaking
    have hmade : Grows controller known asked written ∧ written.deployed.lookup account = some true :=
      grows_written hasked hwritten
    obtain ⟨worth, rfl, rfl, rfl⟩ := yields_swept hswept
    have hbalance : Grows controller written []
        { written with balances := ((token, account), .one) :: written.balances } :=
      grows_balance unpredicting_nil .one fun h => absurd rfl h
    -- a balance that was already swept in this plan is one, and one leaves nothing to sweep
    have hfirst : middle.balances.lookup (token, account) ≠ some .one := by
      intro hone
      rw [balanceOf_eq_one hread hone] at hamount
      exact hamount rfl
    refine ⟨hknown.trans (hmade.1.trans hbalance),
      .swept rate worth (Nat.pos_of_ne_zero hamount) hfirst ?_ List.lookup_cons_self hmade.2⟩
    cases deployed with
    | true => exact Or.inl rfl
    | false =>
      refine Or.inr ⟨rfl, fun htrue => ?_⟩
      nomatch isDeployed_eq_true hasked (hknown.deployed account htrue)

end

/-! ## What the caches account for -/

/-- The events so far are orderly, and what they sweep or make is remembered. -/
structure Accounted (receiver : Word → Address) (caches : Caches) (emitted : List Event) : Prop where
  orderly : Orderly receiver emitted
  swept : ∀ e ∈ emitted, ∀ token account, Sweeps receiver token account e →
    caches.balances.lookup (token, account) = some .one ∧ caches.deployed.lookup account = some true
  made : ∀ account salt, Event.receiverDeployed account salt ∈ emitted → caches.deployed.lookup account = some true

section

variable {controller token account : Address} {salt : Word} {caches middle after : Caches} {tr : List Exchange}
  {receiver : Word → Address} {emitted more : List Event}

/-- No events so far are accounted for by any caches. -/
theorem accounted_nil : Accounted receiver caches [] :=
  ⟨orderly_nil, nofun, nofun⟩

/-- Events that are accounted for stay so while the caches grow. -/
theorem Accounted.grow (h : Accounted receiver caches emitted) (hgrows : Grows controller caches tr after) :
    Accounted receiver after emitted where
  orderly := h.orderly
  swept e he token account hsweeps := by
    obtain ⟨hbalance, hdeployed⟩ := h.swept e he token account hsweeps
    exact ⟨hgrows.swept token account hbalance, hgrows.deployed account hdeployed⟩
  made account salt hmade := hgrows.deployed account (h.made account salt hmade)

/-- A token not remembered as swept from a receiver has not been swept from it. -/
theorem Accounted.not_sweeps (h : Accounted receiver caches emitted)
    (hfirst : caches.balances.lookup (token, account) ≠ some .one) :
    ∀ earlier ∈ emitted, ¬Sweeps receiver token account earlier :=
  fun e he hsweeps => hfirst (h.swept e he token account hsweeps).1

/-- A receiver not remembered as being there has been neither made nor swept. -/
theorem Accounted.untouched (h : Accounted receiver caches emitted)
    (hmissing : caches.deployed.lookup account ≠ some true) :
    ∀ earlier ∈ emitted,
      (∀ salt, earlier ≠ .receiverDeployed account salt) ∧ ∀ token, ¬Sweeps receiver token account earlier := by
  intro e he
  refine ⟨?_, fun token hsweeps => hmissing (h.swept e he token account hsweeps).2⟩
  rintro salt rfl
  exact hmissing (h.made account salt he)

/-- A sweep emits nothing but the making of the receiver and a pull from it. -/
theorem Swept.mem (h : Swept token salt account caches after more) : ∀ e ∈ more,
    e = .receiverDeployed account salt ∨ ∃ amount rate worth, e = .pulledFromReceiver salt token amount rate worth := by
  intro e he
  cases h with
  | nothing => nomatch he
  | @swept made amount rate worth _ _ hmade _ _ =>
    rcases List.mem_append.mp he with he | he
    · rcases hmade with rfl | ⟨rfl, -⟩
      · nomatch he
      · exact Or.inl (List.mem_singleton.mp he)
    · exact Or.inr ⟨amount, rate, worth, List.mem_singleton.mp he⟩

/-- Whatever a sweep emits, the receiver is remembered as swept and as being there. -/
theorem Swept.remembered (h : Swept token salt account caches after more) : ∀ e ∈ more,
    after.balances.lookup (token, account) = some .one ∧ after.deployed.lookup account = some true := by
  intro e he
  cases h with
  | nothing => nomatch he
  | swept _ _ _ _ _ hswept hthere => exact ⟨hswept, hthere⟩

/-- Events that are accounted for stay orderly with those of one more sweep. -/
theorem Accounted.orderly_sweep (h : Accounted receiver caches emitted)
    (hswept : Swept token salt (receiver salt) caches after more) :
    Orderly receiver (emitted ++ more) := by
  cases hswept with
  | nothing =>
    rw [List.append_nil]
    exact h.orderly
  | swept rate worth hamount hfirst hmade hswept hthere =>
    have hnew := h.not_sweeps hfirst
    rcases hmade with rfl | ⟨rfl, hmissing⟩
    · exact h.orderly.concat (inOrder_pulledFromReceiver rate worth hamount hnew)
    · refine h.orderly.concat_pair (inOrder_receiverDeployed _ _ _ (h.untouched hmissing))
        (inOrder_pulledFromReceiver rate worth hamount fun e he => ?_)
      rcases List.mem_append.mp he with he | he
      · exact hnew e he
      · rw [List.mem_singleton.mp he]
        exact not_sweeps_receiverDeployed

/-- Sweeping a receiver keeps the account. -/
theorem Accounted.sweep (h : Accounted receiver caches emitted) (hgrows : Grows controller caches tr after)
    (hswept : Swept token salt (receiver salt) caches after more) : Accounted receiver after (emitted ++ more) where
  orderly := h.orderly_sweep hswept
  swept e he token' account hsweeps := by
    rcases List.mem_append.mp he with he | he
    · exact (h.grow hgrows).swept e he token' account hsweeps
    · have hremembered := hswept.remembered e he
      rcases hswept.mem e he with rfl | ⟨amount, rate, worth, rfl⟩
      · exact absurd hsweeps not_sweeps_receiverDeployed
      · obtain ⟨rfl, rfl⟩ := sweeps_pulledFromReceiver_iff.mp hsweeps
        exact hremembered
  made account salt' he := by
    rcases List.mem_append.mp he with he | he
    · exact (h.grow hgrows).made account salt' he
    · rcases hswept.mem _ he with heq | ⟨amount, rate, worth, heq⟩
      · rw [(Event.receiverDeployed_inj heq).1]
        exact (hswept.remembered _ he).2
      · exact absurd heq.symm Event.pulledFromReceiver_ne_receiverDeployed

/-- Sending an amount through a rebalancer leaves the account as it is. -/
theorem Accounted.rebalance (h : Accounted receiver caches emitted) (sent received : Uint256) (rebalancer : Address) :
    Accounted receiver caches (emitted ++ [.usdtRebalanced sent received rebalancer]) where
  orderly := h.orderly.concat (inOrder_usdtRebalanced sent received rebalancer)
  swept e he token account hsweeps := by
    rcases List.mem_append.mp he with he | he
    · exact h.swept e he token account hsweeps
    · rw [List.mem_singleton.mp he] at hsweeps
      exact absurd hsweeps not_sweeps_usdtRebalanced
  made account salt he := by
    rcases List.mem_append.mp he with he | he
    · exact h.made account salt he
    · exact absurd (List.mem_singleton.mp he).symm Event.usdtRebalanced_ne_receiverDeployed

end

/-! ## Calls and batches -/

/-- The event is of sweeping the receiver of one of the salts. -/
def OfSweep (receiver : Word → Address) (token : Address) (salts : List Word) (e : Event) : Prop :=
  ∃ salt ∈ salts, e = .receiverDeployed (receiver salt) salt ∨
    ∃ amount rate worth, e = .pulledFromReceiver salt token amount rate worth

/-- What a call adds to the events of a batch. -/
inductive Contributes (receiver : Word → Address) : ControllerCall → List Event → Prop
  /-- A sweep adds the events of its own salts. -/
  | sweep {token : Address} {salts : List Word} {part : List Event} (h : ∀ e ∈ part, OfSweep receiver token salts e) :
      Contributes receiver (.pullFromReceivers token salts) part
  /-- A rebalancing adds one event. -/
  | rebalancing (rebalancer : Address) (amount received : Uint256) :
      Contributes receiver (.rebalanceUsdt rebalancer amount) [.usdtRebalanced amount received rebalancer]
  /-- The assertion of a tip adds none. -/
  | assertion (tip : Tip) : Contributes receiver (.isEventChainTip tip) []

/-- The receivers that the caches know are those of the salts. -/
def Fits (receiver : Word → Address) (caches : Caches) : Prop :=
  ∀ salt account, caches.receivers.lookup salt = some account → receiver salt = account

/-- What planning calls has learned and emitted. -/
structure Planned (controller : Address) (caches : Caches) (tr : List Exchange) (after : Caches)
    (calls : List ControllerCall) (emitted : List Event) : Prop where
  grows : Grows controller caches tr after
  /-- Every salt of a sweep has a receiver then. -/
  known : ∀ token salts,
    .pullFromReceivers token salts ∈ calls → ∀ salt ∈ salts, ∃ account, after.receivers.lookup salt = some account
  /-- Whatever has been emitted before stays accounted for. -/
  accounted : ∀ receiver, Fits receiver after → ∀ before, Accounted receiver caches before →
    Accounted receiver after (before ++ emitted)
  /-- Each call adds its own events, in the order of the calls. -/
  parts : ∀ receiver, Fits receiver after →
    ∃ parts, List.Forall₂ (Contributes receiver) calls parts ∧ emitted = parts.flatten

section

variable {controller usdt token : Address} {salt : Word} {salts : List Word} {caches middle after : Caches}
  {tr front back : List Exchange} {receiver : Word → Address} {emitted more sweeps : List Event} {call : ControllerCall}
  {calls : List ControllerCall} {isUsdt : Bool} {rate : Uint256}

/-- Receivers that fit what is known later fit what is known now. -/
theorem Fits.of_grows (h : Fits receiver after) (hgrows : Grows controller caches tr after) : Fits receiver caches :=
  fun salt account hfound => h salt account (hgrows.lookup_receiver hfound)

/-- Sweeping the receivers of salts, by induction over the salts. -/
theorem yields_sweepAll (h : Yields caches (sweepAll isUsdt token rate salts) tr sweeps after) :
    Grows controller caches tr after ∧
    ∀ receiver, Fits receiver after → (∀ e ∈ sweeps, OfSweep receiver token salts e) ∧
      ∀ before, Accounted receiver caches before → Accounted receiver after (before ++ sweeps) := by
  -- on the salts, with any caches: receivers once found stay, so what fits the last caches fits the earlier ones
  induction salts generalizing caches tr sweeps with
  | nil =>
    obtain ⟨rfl, rfl, rfl⟩ := yields_pure_iff.mp h
    refine ⟨grows_refl unpredicting_nil, fun receiver _ => ⟨nofun, fun before hbefore => ?_⟩⟩
    rwa [List.append_nil]
  | cons salt salts ih =>
    rw [sweepAll] at h
    obtain ⟨front, first, middle, back, rfl, hsweep, hrest⟩ := yields_bind_iff.mp h
    obtain ⟨back, rest, later, last, rfl, hall, hpure⟩ := yields_bind_iff.mp hrest
    obtain ⟨rfl, rfl, rfl⟩ := yields_pure_iff.mp hpure
    obtain ⟨account, hfound, hgrows, hswept⟩ := yields_sweep hsweep
    obtain ⟨hgrows', hothers⟩ := ih hall
    rw [List.append_nil]
    refine ⟨hgrows.trans hgrows', fun receiver hfits => ?_⟩
    obtain ⟨hof, haccounted⟩ := hothers receiver hfits
    obtain rfl := (hfits.of_grows hgrows').of_grows hgrows salt account hfound
    refine ⟨fun e he => ?_, fun before hbefore => ?_⟩
    · rcases List.mem_append.mp he with he | he
      · exact ⟨salt, List.mem_cons_self, hswept.mem e he⟩
      · obtain ⟨salt', hsalt', hevent⟩ := hof e he
        exact ⟨salt', List.mem_cons_of_mem _ hsalt', hevent⟩
    · rw [← List.append_assoc]
      exact haccounted _ (hbefore.sweep hgrows hswept)

/-! ### Calls -/

/-- Reads in front of calls emit nothing. -/
theorem Grows.planned (hgrows : Grows controller caches front middle)
    (h : Planned controller middle back after calls emitted) :
    Planned controller caches (front ++ back) after calls emitted where
  grows := hgrows.trans h.grows
  known := h.known
  accounted receiver hfits before hbefore := h.accounted receiver hfits before (hbefore.grow hgrows)
  parts := h.parts

/-- A sweep once its rate is known. -/
theorem planned_pullAt
    (h : Yields caches
      (do
        if rate.val = 0 then throw (.noRate token)
        predictReceivers controller salts
        sweepAll isUsdt token rate salts) tr emitted after) :
    Planned controller caches tr after [.pullFromReceivers token salts] emitted := by
  obtain ⟨_, hnonzero⟩ := yields_unless_iff.mp h
  obtain ⟨front, _, known, back, rfl, hpredict, hsweep⟩ := yields_bind_iff.mp hnonzero
  have hlearned : Grows controller caches front known := grows_predictReceivers hpredict
  obtain ⟨hswept, hemits⟩ : Grows controller known back after ∧ _ := yields_sweepAll hsweep
  refine hlearned.planned ⟨hswept, ?_, fun receiver hfits => (hemits receiver hfits).2, fun receiver hfits => ?_⟩
  · intro token' salts' hcall salt hsalt
    obtain ⟨rfl, rfl⟩ := ControllerCall.pullFromReceivers.inj (List.mem_singleton.mp hcall)
    obtain ⟨account, hfound⟩ := exists_lookup_predictReceivers hpredict hsalt
    exact ⟨account, hswept.lookup_receiver hfound⟩
  · exact ⟨[emitted], .cons (.sweep (hemits receiver hfits).1) .nil, (List.append_nil emitted).symm⟩

/-- A pull comes out with what it has learned and emitted. -/
theorem planned_pull (h : Yields caches (pull controller usdt token salts) tr emitted after) :
    Planned controller caches tr after [.pullFromReceivers token salts] emitted := by
  unfold pull at h
  obtain ⟨_, hsome⟩ := yields_unless_iff.mp h
  dsimp only at hsome
  split at hsome
  · obtain ⟨front, rate, rated, back, rfl, hrate, hat⟩ := yields_bind_iff.mp hsome
    obtain ⟨rfl, rfl, rfl⟩ := yields_pure_iff.mp hrate
    exact planned_pullAt hat
  · obtain ⟨front, rate, rated, back, rfl, hrate, hat⟩ := yields_bind_iff.mp hsome
    exact (grows_rateOf hrate).planned (planned_pullAt hat)

/-- Looking up a route learns nothing. -/
theorem grows_rebalanced {rebalancer : Address} {amount received : Uint256}
    (h : Yields caches (rebalanced controller rebalancer amount) tr received after) :
    Grows controller caches tr after := by
  unfold rebalanced at h
  obtain ⟨front, raw, _, back, rfl, hraw, hpayload⟩ := yields_bind_iff.mp h
  obtain ⟨rfl, rfl⟩ := yields_readContract_iff.mp hraw
  obtain ⟨front, payload, _, back, rfl, hdecoded, hrouted⟩ := yields_bind_iff.mp hpayload
  obtain ⟨rfl, _, rfl⟩ := yields_ofDecoded_iff.mp hdecoded
  obtain ⟨_, hroute⟩ := yields_unless_iff.mp hrouted
  obtain ⟨front, word, _, back, rfl, hword, hoft⟩ := yields_bind_iff.mp hroute
  obtain ⟨rfl, _, rfl⟩ := yields_ofDecoded_iff.mp hword
  obtain ⟨front, oft, _, back, rfl, haddress, hfees⟩ := yields_bind_iff.mp hoft
  obtain ⟨rfl, _, rfl⟩ := yields_ofDecoded_iff.mp haddress
  obtain ⟨front, feeBps, _, back, rfl, hfeeBps, hbps⟩ := yields_bind_iff.mp hfees
  obtain ⟨_, rfl, _, rfl⟩ := yields_readNumber_iff.mp hfeeBps
  obtain ⟨front, denominator, _, back, rfl, hdenominator, hfee⟩ := yields_bind_iff.mp hbps
  obtain ⟨_, rfl, _, rfl⟩ := yields_readNumber_iff.mp hdenominator
  cases hafter : afterFee oft amount feeBps denominator with
  | error cause =>
    rw [hafter] at hfee
    exact absurd hfee not_yields_throw
  | ok rest =>
    rw [hafter] at hfee
    obtain ⟨rfl, rfl, rfl⟩ := yields_pure_iff.mp hfee
    rw [List.nil_append, List.nil_append, List.nil_append, List.append_nil]
    exact grows_refl ((unpredicting_contract (addressReadCall_ne_predictionCall _ _)).append
      ((unpredicting_contract (readCall_ne_predictionCall _)).append
        (unpredicting_contract (readCall_ne_predictionCall _))))

/-- Every call comes out with what it has learned and emitted. -/
theorem planned_callEvents (h : Yields caches (callEvents controller usdt call) tr emitted after) :
    Planned controller caches tr after [call] emitted := by
  cases call with
  | pullFromReceivers token salts => exact planned_pull h
  | rebalanceUsdt rebalancer amount =>
    obtain ⟨front, received, middle, back, rfl, hrebalanced, hpure⟩ := yields_bind_iff.mp h
    obtain ⟨rfl, rfl, rfl⟩ := yields_pure_iff.mp hpure
    refine (grows_rebalanced hrebalanced).planned ⟨grows_refl unpredicting_nil, ?_, ?_, ?_⟩
    · intro token salts hcall
      nomatch List.mem_singleton.mp hcall
    · exact fun receiver _ before hbefore => hbefore.rebalance amount received rebalancer
    · exact fun receiver _ => ⟨_, .cons (.rebalancing rebalancer amount received) .nil, rfl⟩
  | isEventChainTip tip =>
    obtain ⟨rfl, rfl, rfl⟩ := yields_pure_iff.mp h
    refine ⟨grows_refl unpredicting_nil, ?_, ?_, ?_⟩
    · intro token salts hcall
      nomatch List.mem_singleton.mp hcall
    · intro receiver _ before hbefore
      rwa [List.append_nil]
    · exact fun receiver _ => ⟨_, .cons (.assertion tip) .nil, rfl⟩

/-! ### Batches -/

/-- No calls learn nothing and emit nothing. -/
theorem planned_nil : Planned controller caches [] caches [] [] where
  grows := grows_refl unpredicting_nil
  known := nofun
  accounted receiver _ before hbefore := by rwa [List.append_nil]
  parts receiver _ := ⟨[], .nil, rfl⟩

/-- A call and those after it. -/
theorem Planned.cons (h : Planned controller caches front middle [call] emitted)
    (hrest : Planned controller middle back after calls more) :
    Planned controller caches (front ++ back) after (call :: calls) (emitted ++ more) where
  grows := h.grows.trans hrest.grows
  known token salts hcall salt hsalt := by
    rcases List.mem_cons.mp hcall with heq | hcall
    · obtain ⟨account, hfound⟩ := h.known token salts (List.mem_singleton.mpr heq) salt hsalt
      exact ⟨account, hrest.grows.lookup_receiver hfound⟩
    · exact hrest.known token salts hcall salt hsalt
  accounted receiver hfits before hbefore := by
    rw [← List.append_assoc]
    exact hrest.accounted receiver hfits _ (h.accounted receiver (hfits.of_grows hrest.grows) before hbefore)
  parts receiver hfits := by
    obtain ⟨first, hfirst, rfl⟩ := h.parts receiver (hfits.of_grows hrest.grows)
    obtain ⟨others, hothers, rfl⟩ := hrest.parts receiver hfits
    exact ⟨first ++ others, List.rel_append hfirst hothers, List.flatten_append.symm⟩

/-- Calls one after the other come out with what all of them have learned and emitted. -/
theorem planned_batchEvents {result : List Event}
    (h : Dialogue.Transcript (batchEvents controller usdt caches calls).run tr (.ok result)) :
    ∃ after, Planned controller caches tr after calls result := by
  induction calls generalizing caches tr result with
  | nil =>
    obtain ⟨rfl, hresult⟩ := Dialogue.transcript_pure_iff.mp h
    obtain rfl := Except.ok.inj hresult
    exact ⟨caches, planned_nil⟩
  | cons call calls ih =>
    rw [batchEvents] at h
    rcases Dialogue.transcript_except_bind h with ⟨_, _, he⟩ | ⟨front, ⟨first, middle⟩, back, rfl, hcall, hrest⟩
    · nomatch he
    · rcases Dialogue.transcript_except_bind hrest with ⟨_, _, he⟩ | ⟨others, more, last, rfl, hmore, hpure⟩
      · nomatch he
      · obtain ⟨rfl, hresult⟩ := Dialogue.transcript_pure_iff.mp hpure
        obtain rfl := Except.ok.inj hresult
        obtain ⟨after, hplanned⟩ := ih hmore
        rw [List.append_nil]
        exact ⟨after, (planned_callEvents (Dialogue.transcript_adapt_iff.mp hcall)).cons hplanned⟩

/-- A plan starts from nothing that is remembered. -/
theorem planned_events (h : Dialogue.Transcript (events controller calls).run tr (.ok emitted)) :
    ∃ after, Planned controller {} tr after calls emitted := by
  unfold events at h
  rcases Dialogue.transcript_except_bind h with ⟨_, _, he⟩ | ⟨asked, answer, back, rfl, hread, hrest⟩
  · nomatch he
  rcases Dialogue.transcript_except_bind hrest with ⟨_, _, he⟩ | ⟨none, usdt, rest, rfl, hdecoded, hbatch⟩
  · nomatch he
  obtain ⟨rfl, _⟩ := Dialogue.transcript_done_iff.mp hdecoded
  obtain ⟨front, r, last, rfl, hquestion, hdone⟩ := Dialogue.transcript_bind_iff.mp hread
  obtain rfl := Dialogue.transcript_question_iff.mp hquestion
  obtain ⟨rfl, _⟩ := Dialogue.transcript_done_iff.mp hdone
  obtain ⟨after, hplanned⟩ := planned_batchEvents hbatch
  have hread : Unpredicting ([⟨.contract controller (readCall Signature.usdt), r⟩] ++ []) :=
    (unpredicting_contract (readCall_ne_predictionCall _)).append unpredicting_nil
  exact ⟨after, (grows_refl hread).planned hplanned⟩

end

/-! ## Every plan -/

/-- What the events of calls are like, when the answers are those of the transcript and salts have these receivers. -/
structure EmitsOnce (controller : Address) (calls : List ControllerCall) (tr : List Exchange)
    (receiver : Word → Address) (emitted : List Event) : Prop where
  /-- A salt has the receiver that is predicted for it. -/
  predicted : ∀ salt account, Predicts controller tr salt account → receiver salt = account
  /-- There is a prediction for every salt of a sweep. -/
  covered : ∀ token salts,
    .pullFromReceivers token salts ∈ calls → ∀ salt ∈ salts, Predicts controller tr salt (receiver salt)
  /-- A token is swept from a receiver once at most, and a receiver is made once at most, just before it is first
  swept. -/
  orderly : Orderly receiver emitted
  /-- Each call adds its own events, in the order of the calls. -/
  parts : ∃ parts, List.Forall₂ (Contributes receiver) calls parts ∧ emitted = parts.flatten

/-- Every plan that comes out sweeps and makes each receiver once at most, whatever is answered. -/
theorem emitted_once {controller : Address} {calls : List ControllerCall} {tr : List Exchange} {emitted : List Event}
    (h : Dialogue.Transcript (events controller calls).run tr (.ok emitted)) :
    ∃ receiver, EmitsOnce controller calls tr receiver emitted := by
  obtain ⟨after, hplanned⟩ := planned_events h
  let receiver : Word → Address := fun salt => (after.receivers.lookup salt).getD controller
  have hfits : Fits receiver after := by
    intro salt account hfound
    show (after.receivers.lookup salt).getD controller = account
    rw [hfound]
    rfl
  have hlearned : ∀ salt account, after.receivers.lookup salt = some account ↔ Predicts controller tr salt account := by
    intro salt account
    rw [hplanned.grows.receivers, List.lookup_nil, or_iff_right nofun]
  refine ⟨receiver, ?_, ?_, ?_, hplanned.parts receiver hfits⟩
  · intro salt account hpredicts
    exact hfits salt account ((hlearned salt account).mpr hpredicts)
  · intro token salts hcall salt hsalt
    obtain ⟨account, hfound⟩ := hplanned.known token salts hcall salt hsalt
    rw [hfits salt account hfound]
    exact (hlearned salt account).mp hfound
  · exact (hplanned.accounted receiver hfits [] accounted_nil).orderly

/-! ### A sample -/

/-- The account of twenty zeros. -/
def sampleReceiver : Address :=
  ⟨Octets.ofNat 20 0⟩

/-- Two sweeps of the same two salts. -/
def sampleSweeps : List ControllerCall :=
  [.pullFromReceivers sampleReceiver [Octets.ofNat 32 1, Octets.ofNat 32 2], .isEventChainTip (Octets.ofNat 32 0),
    .pullFromReceivers sampleReceiver [Octets.ofNat 32 2, Octets.ofNat 32 1]]

/-- Answers by how many reads there were: USDT, then the receivers, which are the same for both salts, then a balance
that grows with every read. No contract is ever there. -/
def scriptedAnswer (reads : Nat) : (q : Read) → q.Answer × Nat
  | .deployed _ => (.ok false, reads)
  | .contract _ _ =>
    (.ok (match reads with
      | 0 => (Abi.ofAddress sampleReceiver).bytes
      | 1 => (Abi.ofLength 32).bytes ++ Abi.ofBytesArray (List.replicate 2 (Abi.ofAddress sampleReceiver).bytes)
      | reads => (Abi.ofLength reads).bytes), reads + 1)

/-- The first salt makes the receiver and sweeps it, and nothing is left for the others. -/
def sampleEmitted : List Event :=
  [.receiverDeployed sampleReceiver (Octets.ofNat 32 1),
    .pulledFromReceiver (Octets.ofNat 32 1) sampleReceiver .one rateScale .one]

set_option maxRecDepth 20000 in
/-- What comes of the two sweeps when the answers are scripted. -/
theorem play_sampleSweeps :
    ((events sampleReceiver sampleSweeps).run.play scriptedAnswer 0).1 = .ok sampleEmitted := rfl

/-- The two sweeps of the sample emit the making of the receiver and one pull from it. -/
theorem emitted_once_sample :
    ∃ tr, Dialogue.Transcript (events sampleReceiver sampleSweeps).run tr (.ok sampleEmitted) ∧
    ∃ receiver, EmitsOnce sampleReceiver sampleSweeps tr receiver sampleEmitted := by
  have htr := Dialogue.transcript_play scriptedAnswer 0 (events sampleReceiver sampleSweeps).run
  rw [play_sampleSweeps] at htr
  exact ⟨_, htr, emitted_once htr⟩

end CheckpointRelay.Plan
