import CheckpointRelay.Proofs.Plan.Asked
import CheckpointRelay.Proofs.Plan.Prediction
import Mathlib.Data.List.Nodup

/-!
# No salt is without a receiver, or changes it

A sweep predicts the receivers of its salts before it looks them up, so that none is missing, whatever is answered
(`foreseen_callEvents`). From call to call the caches keep the receivers that they know and learn those that are
predicted (`Reaches.receivers`), and no salt is predicted twice. So a plan finds a receiver for each salt and the same
one every time (`receivers_assigned`).
-/

namespace CheckpointRelay.Plan

/-! ## No receiver is missing -/

section

variable {controller usdt token : Address} {caches : Caches} {tr : List Exchange} {cause : Cause} {isUsdt : Bool}
  {rate : Uint256} {salt : Word} {salts : List Word}

/-- Predicting fails for a foreseen cause. -/
theorem foreseen_predictReceivers (h : Stops caches (predictReceivers controller salts) tr cause) : cause.Foreseen := by
  obtain ⟨-, answer, -, hrefused⟩ := stops_predictReceivers h
  exact hrefused.foreseen

/-- A sweep of a salt whose receiver is known is not stopped for want of it. -/
theorem foreseen_sweep {account : Address} (hknown : caches.receivers.lookup salt = some account)
    (h : Stops caches (sweep isUsdt token rate salt) tr cause) : cause.Foreseen := by
  unfold sweep at h
  rcases stops_bind h with hreceiver | ⟨_, _, _, _, _, _, hbalance⟩
  · exact absurd hreceiver (not_stops_receiverOf hknown)
  rcases stops_bind hbalance with hread | ⟨_, balance, _, _, _, _, hrest⟩
  · exact foreseen_balanceOf hread
  by_cases hamount : balance.pred.val = 0
  · rw [if_pos hamount] at hrest
    exact absurd hrest not_stops_pure
  rw [if_neg hamount] at hrest
  rcases stops_bind hrest with hasked | ⟨_, deployed, _, _, _, _, hmaking⟩
  · exact foreseen_isDeployed hasked
  obtain ⟨written, hswept⟩ := stops_modify_if hmaking
  cases hworth : worth? isUsdt rate balance.pred with
  | none =>
    rw [hworth] at hswept
    obtain ⟨-, rfl⟩ := stops_throw hswept
    nofun
  | some worth =>
    rw [hworth] at hswept
    rcases stops_bind hswept with hmodify | ⟨_, _, _, _, _, _, hpure⟩
    · exact absurd hmodify not_stops_modify
    · exact absurd hpure not_stops_pure

/-- By induction over the salts: a sweep of one salt keeps the receivers of the others. -/
theorem foreseen_sweepAll (hknown : ∀ salt ∈ salts, ∃ account, caches.receivers.lookup salt = some account)
    (h : Stops caches (sweepAll isUsdt token rate salts) tr cause) : cause.Foreseen := by
  induction salts generalizing caches tr with
  | nil => exact absurd h not_stops_pure
  | cons salt salts ih =>
    obtain ⟨⟨account, hfirst⟩, hothers⟩ := List.forall_mem_cons.mp hknown
    rw [sweepAll] at h
    rcases stops_bind h with hsweep | ⟨front, _, middle, back, _, hsweep, hrest⟩
    · exact foreseen_sweep hfirst hsweep
    -- a sweep reads no predictions, so that any controller will do
    obtain ⟨-, -, hgrows, -⟩ : ∃ account, _ ∧ Grows token caches front middle ∧ _ := yields_sweep hsweep
    rcases stops_bind hrest with hall | ⟨_, _, _, _, _, _, hpure⟩
    · refine ih (fun salt' hsalt' => ?_) hall
      obtain ⟨account', hfound⟩ := hothers salt' hsalt'
      exact ⟨account', hgrows.lookup_receiver hfound⟩
    · exact absurd hpure not_stops_pure

/-- A sweep once its rate is known. -/
theorem foreseen_pullAt
    (h : Stops caches
      (do
        if rate.val = 0 then throw (.noRate token)
        predictReceivers controller salts
        sweepAll isUsdt token rate salts) tr cause) : cause.Foreseen := by
  rcases stops_unless h with ⟨-, -, rfl⟩ | ⟨-, hnonzero⟩
  · nofun
  rcases stops_bind hnonzero with hpredict | ⟨_, _, _, _, _, hpredict, hsweep⟩
  · exact foreseen_predictReceivers hpredict
  · exact foreseen_sweepAll (fun salt => exists_lookup_predictReceivers hpredict) hsweep

/-- A pull fails for a foreseen cause. -/
theorem foreseen_pull (h : Stops caches (pull controller usdt token salts) tr cause) : cause.Foreseen := by
  unfold pull at h
  rcases stops_unless h with ⟨-, -, rfl⟩ | ⟨-, hsome⟩
  · nofun
  dsimp only at hsome
  split at hsome
  · rcases stops_bind hsome with hrate | ⟨_, _, _, _, _, _, hat⟩
    · exact absurd hrate not_stops_pure
    · exact foreseen_pullAt hat
  · rcases stops_bind hsome with hrate | ⟨_, _, _, _, _, _, hat⟩
    · exact foreseen_rateOf hrate
    · exact foreseen_pullAt hat

/-- Charging fails for a foreseen cause. -/
theorem foreseen_afterFee {oft : Address} {amount feeBps denominator : Uint256}
    (h : afterFee oft amount feeBps denominator = .error cause) : cause.Foreseen := by
  unfold afterFee at h
  split at h
  · obtain rfl := Except.error.inj h
    nofun
  · split at h
    · obtain rfl := Except.error.inj h
      nofun
    · dsimp only at h
      split at h
      · nomatch h
      · obtain rfl := Except.error.inj h
        nofun

/-- The route of a rebalancer needs no receivers. -/
theorem foreseen_rebalanced {rebalancer : Address} {amount : Uint256}
    (h : Stops caches (rebalanced controller rebalancer amount) tr cause) :
    cause.Foreseen := by
  -- read by read: each one that fails, and each answer that does not decode, is one of the foreseen causes
  unfold rebalanced at h
  rcases stops_bind h with hraw | ⟨_, _, _, _, _, _, hpayload⟩
  · exact foreseen_readContract hraw
  rcases stops_bind hpayload with hdecoded | ⟨_, _, _, _, _, _, hrouted⟩
  · obtain ⟨_, -, -, rfl⟩ := stops_ofDecoded hdecoded
    nofun
  rcases stops_unless hrouted with ⟨-, -, rfl⟩ | ⟨-, hroute⟩
  · nofun
  rcases stops_bind hroute with hword | ⟨_, _, _, _, _, _, hoft⟩
  · obtain ⟨_, -, -, rfl⟩ := stops_ofDecoded hword
    nofun
  rcases stops_bind hoft with haddress | ⟨_, oft, _, _, _, _, hfees⟩
  · obtain ⟨_, -, -, rfl⟩ := stops_ofDecoded haddress
    nofun
  rcases stops_bind hfees with hfeeBps | ⟨_, feeBps, _, _, _, _, hbps⟩
  · exact foreseen_readNumber hfeeBps
  rcases stops_bind hbps with hdenominator | ⟨_, denominator, _, _, _, _, hfee⟩
  · exact foreseen_readNumber hdenominator
  cases hafter : afterFee oft amount feeBps denominator with
  | error e =>
    rw [hafter] at hfee
    obtain ⟨-, rfl⟩ := stops_throw hfee
    exact foreseen_afterFee hafter
  | ok rest =>
    rw [hafter] at hfee
    exact absurd hfee not_stops_pure

/-- Planning a call fails for a foreseen cause. -/
theorem foreseen_callEvents {call : ControllerCall} (h : Stops caches (callEvents controller usdt call) tr cause) :
    cause.Foreseen := by
  cases call with
  | pullFromReceivers token salts => exact foreseen_pull h
  | rebalanceUsdt rebalancer amount =>
    rcases stops_bind h with hrebalanced | ⟨_, _, _, _, _, _, hpure⟩
    · exact foreseen_rebalanced hrebalanced
    · exact absurd hpure not_stops_pure
  | isEventChainTip tip => exact absurd h not_stops_pure

end

/-! ## No receiver changes -/

/-- From caches, calls come out one after the other, and leave caches. -/
inductive Reaches (controller usdt : Address) : Caches → List ControllerCall → List Exchange → Caches → Prop
  | nil (caches : Caches) : Reaches controller usdt caches [] [] caches
  | cons {caches middle after : Caches} {call : ControllerCall} {calls : List ControllerCall}
      {front back : List Exchange} {emitted : List Event}
      (hcall : Yields caches (callEvents controller usdt call) front emitted middle)
      (hrest : Reaches controller usdt middle calls back after) :
      Reaches controller usdt caches (call :: calls) (front ++ back) after

section

variable {controller usdt : Address} {caches after : Caches} {tr : List Exchange} {calls : List ControllerCall}

/-- Through the calls that come out, the caches grow. -/
theorem Reaches.grows (h : Reaches controller usdt caches calls tr after) : Grows controller caches tr after := by
  induction h with
  | nil caches => exact grows_refl unpredicting_nil
  | cons hcall _ ih => exact (planned_callEvents hcall).grows.trans ih

/-- Calls that all come out are passed one after the other. -/
theorem exists_reaches_of_batchEvents {emitted : List Event}
    (h : Dialogue.Transcript (batchEvents controller usdt caches calls).run tr (.ok emitted)) :
    ∃ after, Reaches controller usdt caches calls tr after := by
  induction calls generalizing caches tr emitted with
  | nil =>
    obtain ⟨rfl, -⟩ := Dialogue.transcript_pure_iff.mp h
    exact ⟨caches, .nil caches⟩
  | cons call calls ih =>
    rw [batchEvents] at h
    rcases Dialogue.transcript_except_bind h with ⟨_, _, he⟩ | ⟨front, ⟨first, middle⟩, back, rfl, hcall, hrest⟩
    · cases he
    rcases Dialogue.transcript_except_bind hrest with ⟨_, _, he⟩ | ⟨others, more, last, rfl, hmore, hpure⟩
    · cases he
    obtain ⟨rfl, -⟩ := Dialogue.transcript_pure_iff.mp hpure
    obtain ⟨after, hreaches⟩ := ih hmore
    rw [List.append_nil]
    exact ⟨after, .cons (Dialogue.transcript_adapt_iff.mp hcall) hreaches⟩

/-- A batch that fails does so at one of its calls, after those before it, and not for want of a receiver. -/
theorem stopped_batchEvents {e : Error}
    (h : Dialogue.Transcript (batchEvents controller usdt caches calls).run tr (.error e)) :
    ∃ before call later front middle back cause, calls = before ++ call :: later ∧ tr = front ++ back ∧
      Reaches controller usdt caches before front middle ∧ e = .call call.name cause ∧ cause.Foreseen := by
  induction calls generalizing caches tr with
  | nil => cases (Dialogue.transcript_pure_iff.mp h).2
  | cons call calls ih =>
    rw [batchEvents] at h
    rcases Dialogue.transcript_except_bind h with ⟨_, hcall, he⟩ | ⟨front, ⟨first, middle⟩, back, rfl, hcall, hrest⟩
    · obtain rfl := Except.error.inj he
      obtain ⟨cause, rfl, hstops⟩ := Dialogue.exists_of_transcript_adapt_error hcall
      exact ⟨[], call, calls, [], caches, tr, cause, rfl, rfl, .nil caches, rfl, foreseen_callEvents hstops⟩
    rcases Dialogue.transcript_except_bind hrest with ⟨_, hmore, he⟩ | ⟨_, _, _, _, _, hpure⟩
    · obtain rfl := Except.error.inj he
      obtain ⟨before, stopped, later, read, last, rest, cause, rfl, rfl, hreaches, rfl, hforeseen⟩ := ih hmore
      exact ⟨call :: before, stopped, later, front ++ read, last, rest, cause, rfl, (List.append_assoc ..).symm,
        .cons (Dialogue.transcript_adapt_iff.mp hcall) hreaches, rfl, hforeseen⟩
    · cases (Dialogue.transcript_pure_iff.mp hpure).2

/-- The transcript of a plan leads through the calls to the caches. -/
def LeadsTo (controller : Address) (calls : List ControllerCall) (tr : List Exchange) (after : Caches) : Prop :=
  ∃ answer usdt back, tr = ⟨.contract controller (readCall Signature.usdt), answer⟩ :: back ∧
    Reaches controller usdt {} calls back after

/-- A plan goes from call to call, and stops, if it does, at one of them. -/
theorem leadsTo_events {r : Except Error (List Event)} (h : Dialogue.Transcript (events controller calls).run tr r) :
    (∀ emitted, r = .ok emitted → ∃ after, LeadsTo controller calls tr after) ∧
    ∀ name cause, r = .error (.call name cause) → cause.Foreseen ∧ ∃ before call later front middle back,
      calls = before ++ call :: later ∧ name = call.name ∧ tr = front ++ back ∧
      LeadsTo controller before front middle := by
  -- the token's address is read and decoded first, and neither failure is blamed on a call
  unfold events at h
  rcases Dialogue.transcript_except_bind h with ⟨e, hread, rfl⟩ | ⟨_, data, back, rfl, hread, hrest⟩
  · obtain ⟨_, answer, _, rfl, -, hdone⟩ := Dialogue.transcript_bind_iff.mp hread
    obtain ⟨-, hanswer⟩ := Dialogue.transcript_done_iff.mp hdone
    refine ⟨nofun, fun name cause hr => ?_⟩
    obtain rfl := Except.error.inj hr
    cases answer with
    | ok data => nomatch hanswer
    | error report => nomatch hanswer
  obtain ⟨_, answer, _, rfl, hquestion, hdone⟩ := Dialogue.transcript_bind_iff.mp hread
  obtain rfl := Dialogue.transcript_question_iff.mp hquestion
  obtain ⟨rfl, -⟩ := Dialogue.transcript_done_iff.mp hdone
  rcases Dialogue.transcript_except_bind hrest with ⟨e, hdecoded, rfl⟩ | ⟨_, usdt, rest, rfl, hdecoded, hbatch⟩
  · obtain ⟨-, hanswer⟩ := Dialogue.transcript_done_iff.mp hdecoded
    refine ⟨nofun, fun name cause hr => ?_⟩
    obtain rfl := Except.error.inj hr
    cases haddress : Abi.addressOf data 0 with
    | ok usdt =>
      rw [haddress] at hanswer
      nomatch hanswer
    | error e =>
      rw [haddress] at hanswer
      nomatch hanswer
  obtain ⟨rfl, -⟩ := Dialogue.transcript_done_iff.mp hdecoded
  constructor
  · rintro emitted rfl
    obtain ⟨after, hreaches⟩ := exists_reaches_of_batchEvents hbatch
    exact ⟨after, answer, usdt, rest, rfl, hreaches⟩
  · rintro name cause rfl
    obtain ⟨before, call, later, front, middle, back, cause', rfl, rfl, hreaches, heq, hforeseen⟩ :=
      stopped_batchEvents hbatch
    obtain ⟨rfl, rfl⟩ := Error.call.inj heq
    exact ⟨hforeseen, before, call, later, _ :: front, middle, back, rfl, rfl, rfl, answer, usdt, front, rfl, hreaches⟩

/-! ### Two predictions -/

/-- A batch asks for a salt once, so that its answer gives the salt one account. -/
theorem eq_of_mem_zip {asked : List Word} {receivers : List Address} {salt : Word} {account account' : Address}
    (hnodup : asked.Nodup) (h : (salt, account) ∈ asked.zip receivers) (h' : (salt, account') ∈ asked.zip receivers) :
    account = account' := by
  obtain ⟨i, hi, hentry⟩ := List.mem_iff_getElem.mp h
  obtain ⟨j, hj, hentry'⟩ := List.mem_iff_getElem.mp h'
  rw [List.length_zip, Nat.lt_min] at hi hj
  obtain ⟨hsalt, rfl⟩ := Prod.mk.inj (List.getElem_zip.symm.trans hentry)
  obtain ⟨hsalt', rfl⟩ := Prod.mk.inj (List.getElem_zip.symm.trans hentry')
  obtain rfl : i = j := (List.Nodup.getElem_inj_iff hnodup).mp (hsalt.trans hsalt'.symm)
  rfl

/-- A batch in order asks for each of its salts once, and for none that was asked for before. -/
theorem AsksInOrder.receivers_at {front back : List Exchange} {asked : List Word} {answer : Except Report Bytes}
    (h : AsksInOrder controller [] (front ++ ⟨.contract controller (predictionCall asked), answer⟩ :: back)) :
    asked.Nodup ∧ ∀ earlier answer', (⟨.contract controller (predictionCall earlier), answer'⟩ : Exchange) ∈ front →
      ∀ salt ∈ asked, salt ∉ earlier := by
  obtain ⟨⟨q, hread, hmay⟩, -⟩ := h.at
  obtain rfl : Question.receivers asked = q := Question.read_injective controller hread
  obtain ⟨-, hnodup, hbefore⟩ := hmay
  exact ⟨hnodup, fun earlier answer' hmem => hbefore earlier (List.mem_map.mpr ⟨_, hmem, rfl⟩)⟩

/-- Two answers do not give a salt different receivers, as it is asked for once only. -/
theorem AsksInOrder.predicts_unique {salt : Word} {account account' : Address} (h : AsksInOrder controller [] tr)
    (hpredicts : Predicts controller tr salt account) (hpredicts' : Predicts controller tr salt account') :
    account = account' := by
  obtain ⟨asked, raw, results, receivers, hmem, hresults, hreceivers, hzip⟩ := hpredicts
  obtain ⟨asked', raw', results', receivers', hmem', hresults', hreceivers', hzip'⟩ := hpredicts'
  have hsalt := (List.of_mem_zip hzip).1
  have hsalt' := (List.of_mem_zip hzip').1
  obtain ⟨front, back, rfl⟩ := List.append_of_mem hmem
  rcases List.mem_append.mp hmem' with hfront | hrest
  · exact absurd hsalt' (h.receivers_at.2 asked' _ hfront salt hsalt)
  rcases List.mem_cons.mp hrest with heq | hback
  · have hsame : Predicts controller [⟨.contract controller (predictionCall asked), .ok raw⟩] salt account' :=
      ⟨asked', raw', results', receivers', List.mem_singleton.mpr heq, hresults', hreceivers', hzip'⟩
    exact eq_of_mem_zip h.receivers_at.1 hzip ((predicts_singleton_iff hresults hreceivers).mp hsame)
  · obtain ⟨between, later, rfl⟩ := List.append_of_mem hback
    rw [← List.cons_append, ← List.append_assoc] at h
    exact absurd hsalt (h.receivers_at.2 asked _ (List.mem_append_right _ List.mem_cons_self) salt hsalt')

end

/-! ## Every plan -/

/-- What planning calls does with the receivers of salts. -/
structure KeepsReceivers (controller : Address) (calls : List ControllerCall) (tr : List Exchange)
    (r : Except Error (List Event)) :
    Prop where
  /-- A plan does not fail for want of a receiver. -/
  found : ∀ name salt, r ≠ .error (.call name (.noReceiver salt))
  /-- A plan that comes out has gone from call to call. -/
  passed : ∀ emitted, r = .ok emitted → ∃ after, LeadsTo controller calls tr after
  /-- A plan that fails at a call has gone through the calls before it. -/
  stopped : ∀ name cause, r = .error (.call name cause) → ∃ before call later front middle back,
    calls = before ++ call :: later ∧ name = call.name ∧ tr = front ++ back ∧ LeadsTo controller before front middle
  /-- No two answers give a salt different receivers. -/
  one : ∀ salt account account', Predicts controller tr salt account → Predicts controller tr salt account' →
    account = account'
  /-- There is an answer for every salt that is swept. -/
  covered : ∀ emitted, r = .ok emitted → ∀ token salts, .pullFromReceivers token salts ∈ calls → ∀ salt ∈ salts,
    ∃ account, Predicts controller tr salt account
  /-- Receivers are made where they were predicted. -/
  made : ∀ emitted, r = .ok emitted → ∀ account salt, .receiverDeployed account salt ∈ emitted →
    Predicts controller tr salt account

section

variable {controller account : Address} {salt : Word} {caches after : Caches} {tr : List Exchange}
  {calls : List ControllerCall} {emitted : List Event}

/-- A receiver that is made is known as that of its salt. -/
theorem Planned.lookup_of_made (h : Planned controller caches tr after calls emitted)
    (hmade : .receiverDeployed account salt ∈ emitted) :
    after.receivers.lookup salt = some account := by
  -- any function that fits the last caches will do; the default is never asked for
  let receiver : Word → Address := fun salt => (after.receivers.lookup salt).getD controller
  have hfits : Fits receiver after := by
    intro salt' account' hfound
    show (after.receivers.lookup salt').getD controller = account'
    rw [hfound]
    rfl
  obtain ⟨parts, hparts, rfl⟩ := h.parts receiver hfits
  obtain ⟨part, hpart, hevent⟩ := List.mem_flatten.mp hmade
  obtain ⟨call, hcall, hcontributes⟩ : ∃ call ∈ calls, Contributes receiver call part := by
    obtain ⟨i, hi, rfl⟩ := List.mem_iff_getElem.mp hpart
    have hi' : i < calls.length := hparts.length_eq ▸ hi
    exact ⟨calls[i], List.getElem_mem hi', (List.forall₂_iff_get.mp hparts).2 i hi' hi⟩
  cases hcontributes with
  | sweep hof =>
    obtain ⟨salt', hsalt', heq | ⟨amount, rate, worth, heq⟩⟩ := hof _ hevent
    · obtain ⟨rfl, rfl⟩ := Event.receiverDeployed_inj heq
      obtain ⟨account', hfound⟩ := h.known _ _ hcall salt hsalt'
      rw [hfits salt account' hfound, hfound]
    · exact absurd heq.symm Event.pulledFromReceiver_ne_receiverDeployed
  | rebalancing rebalancer amount received =>
    exact absurd (List.mem_singleton.mp hevent).symm Event.usdtRebalanced_ne_receiverDeployed
  | assertion tip => nomatch hevent

end

/-- Predicting the receivers of salts gives each its own, whatever is answered. From call to call the receivers that are
known stay, and those that are predicted are learned. So a plan finds a receiver for each salt, and no salt has two. -/
theorem receivers_assigned (controller : Address) :
    (∀ caches salts tr r, Dialogue.Transcript ((predictReceivers controller salts).run caches).run tr r →
      AssignsOwn controller caches salts tr r) ∧
    (∀ usdt caches call tr salt, ¬Stops caches (callEvents controller usdt call) tr (.noReceiver salt)) ∧
    (∀ usdt caches calls tr after, Reaches controller usdt caches calls tr after → ∀ salt account,
      after.receivers.lookup salt = some account ↔
        caches.receivers.lookup salt = some account ∨ Predicts controller tr salt account) ∧
    ∀ calls tr r, Dialogue.Transcript (events controller calls).run tr r → KeepsReceivers controller calls tr r := by
  refine ⟨fun caches salts tr r => assignsOwn_predictReceivers,
    fun usdt caches call tr salt h => foreseen_callEvents h salt rfl,
    fun usdt caches calls tr after h => h.grows.receivers, fun calls tr r h => ?_⟩
  obtain ⟨hpassed, hstopped⟩ := leadsTo_events h
  refine ⟨?_, hpassed, fun name cause hr => (hstopped name cause hr).2,
    fun salt account account' => (asksInOrder_events h).1.predicts_unique, ?_, ?_⟩
  · rintro name salt rfl
    exact (hstopped name _ rfl).1 salt rfl
  · rintro emitted rfl token salts hcall salt hsalt
    obtain ⟨after, hplanned⟩ := planned_events h
    obtain ⟨account, hfound⟩ := hplanned.known token salts hcall salt hsalt
    exact ⟨account, ((hplanned.grows.receivers salt account).mp hfound).resolve_left nofun⟩
  · rintro emitted rfl account salt hmade
    obtain ⟨after, hplanned⟩ := planned_events h
    exact ((hplanned.grows.receivers salt account).mp (hplanned.lookup_of_made hmade)).resolve_left nofun

/-! ### A sample -/

/-- Salts with a repetition. -/
def sampleSalts : List Word :=
  [Octets.ofNat 32 2, Octets.ofNat 32 1, Octets.ofNat 32 2]

/-- The receivers of the second salt and of the first. -/
def samplePrediction (reads : Nat) : (q : Read) → q.Answer × Nat
  | .deployed _ => (.ok false, reads)
  | .contract _ _ =>
    (.ok ((Abi.ofLength 32).bytes ++
      Abi.ofBytesArray [(Abi.ofAddress ⟨Octets.ofNat 20 7⟩).bytes, (Abi.ofAddress ⟨Octets.ofNat 20 9⟩).bytes]),
      reads + 1)

set_option maxRecDepth 20000 in
/-- What the sample prediction puts into the caches: each salt has the receiver at its own place. -/
theorem play_samplePrediction :
    (((predictReceivers sampleReceiver sampleSalts).run {}).run.play samplePrediction 0).1 =
      .ok ((), { receivers := [(Octets.ofNat 32 1, ⟨Octets.ofNat 20 9⟩), (Octets.ofNat 32 2, ⟨Octets.ofNat 20 7⟩)] }) :=
  rfl

/-- Salts with a repetition are asked for once each, and get the receivers at their places. -/
theorem receivers_assigned_sample :
    (∃ tr after, Dialogue.Transcript ((predictReceivers sampleReceiver sampleSalts).run {}).run tr (.ok ((), after)) ∧
      after.receivers = [(Octets.ofNat 32 1, ⟨Octets.ofNat 20 9⟩), (Octets.ofNat 32 2, ⟨Octets.ofNat 20 7⟩)] ∧
      AssignsOwn sampleReceiver {} sampleSalts tr (.ok ((), after))) ∧
    ∃ tr, Dialogue.Transcript (events sampleReceiver sampleSweeps).run tr (.ok sampleEmitted) ∧
      KeepsReceivers sampleReceiver sampleSweeps tr (.ok sampleEmitted) := by
  have hpredicted := Dialogue.transcript_play samplePrediction 0
      ((predictReceivers sampleReceiver sampleSalts).run {}).run
  rw [play_samplePrediction] at hpredicted
  have hplanned := Dialogue.transcript_play scriptedAnswer 0 (events sampleReceiver sampleSweeps).run
  rw [play_sampleSweeps] at hplanned
  exact ⟨⟨_, _, hpredicted, rfl, (receivers_assigned sampleReceiver).1 _ _ _ _ hpredicted⟩,
    _, hplanned, (receivers_assigned sampleReceiver).2.2.2 _ _ _ hplanned⟩

end CheckpointRelay.Plan
