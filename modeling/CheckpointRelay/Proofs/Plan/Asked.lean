import CheckpointRelay.Proofs.Plan.Once
import CheckpointRelay.Proofs.Plan.Questions

/-!
# Nothing remembered is asked again

Whatever is answered, and whether or not a plan comes out, planning asks its questions in order: USDT first and once,
then each balance, each rate and each contract once at most, and the receiver of each salt in one batch at most.
`Careful` says of a step that it does so from what an assertion about the past and the caches allows, and there is one
rule for each way to put steps together. What carries this along is that the caches hold what has been asked
(`Remembers`).
-/

namespace CheckpointRelay.Plan

/-! ## Careful steps -/

/-- An assertion about what has been asked and answered, and about the caches. -/
abbrev Assertion := List Exchange → Caches → Prop

/-- A step asks in order, with at most `n` batches, and if it comes out no read has failed and another assertion
holds. -/
def Careful {α : Type} (controller : Address) (n : Nat) (pre : Assertion) (step : PlanM α) (post : α → Assertion) :
    Prop :=
  ∀ past caches tr r, pre past caches → Dialogue.Transcript (step.run caches).run tr r →
    AsksInOrder controller past tr ∧ (batches tr).length ≤ n ∧
      ∀ a after, r = .ok (a, after) → (∀ x ∈ tr, ¬Failed x) ∧ post a (past ++ tr) after

section

variable {α β : Type} {controller : Address} {n m : Nat} {pre : Assertion} {step : PlanM α} {mid : α → Assertion}

/-- A step that asks nothing. -/
theorem careful_silent {result : Caches → Except Cause (α × Caches)}
    (hstep : ∀ caches, (step.run caches).run = .done (result caches))
    (hpost : ∀ past caches a after, pre past caches → result caches = .ok (a, after) → mid a past after) :
    Careful controller 0 pre step mid := by
  intro past caches tr r hpre h
  rw [hstep] at h
  obtain ⟨rfl, rfl⟩ := Dialogue.transcript_done_iff.mp h
  refine ⟨.nil past, Nat.le_refl 0, fun a after hr => ⟨nofun, ?_⟩⟩
  rw [List.append_nil]
  exact hpost past caches a after hpre hr

/-- Returning a value asks nothing. -/
theorem careful_pure {a : α} (h : ∀ past caches, pre past caches → mid a past caches) :
    Careful controller 0 pre (pure a) mid := by
  refine careful_silent (fun _ => rfl) fun past caches b after hpre hr => ?_
  obtain ⟨rfl, rfl⟩ := Prod.mk.inj (Except.ok.inj hr)
  exact h past caches hpre

/-- Failing asks nothing, and nothing is said of what comes out. -/
theorem careful_throw {cause : Cause} : Careful controller 0 pre (throw cause) mid :=
  careful_silent (fun _ => rfl) nofun

/-- Changing the caches asks nothing. -/
theorem careful_modify {f : Caches → Caches} {post : Unit → Assertion}
    (h : ∀ past caches, pre past caches → post () past (f caches)) :
    Careful controller 0 pre (modify f) post := by
  refine careful_silent (fun _ => rfl) fun past caches a after hpre hr => ?_
  obtain ⟨-, rfl⟩ := Prod.mk.inj (Except.ok.inj hr)
  exact h past caches hpre

/-- Decoding asks nothing; if it comes out, it has decoded. -/
theorem careful_ofDecoded {told : Abi.DecodeError → Cause} {decoded : Except Abi.DecodeError α} :
    Careful controller 0 pre (ofDecoded told decoded) fun a past caches => decoded = .ok a ∧ pre past caches := by
  cases decoded with
  | ok a => exact careful_pure fun past caches hpre => ⟨rfl, hpre⟩
  | error cause => exact careful_throw

/-- Less is assumed, more is asked. -/
theorem Careful.weaken (h : Careful controller n pre step mid) (hn : n ≤ m) {pre' : Assertion}
    (hpre : ∀ past caches, pre' past caches → pre past caches) {mid' : α → Assertion}
    (hmid : ∀ a past caches, mid a past caches → mid' a past caches) : Careful controller m pre' step mid' := by
  intro past caches tr r hpast htr
  obtain ⟨horder, hbatches, hok⟩ := h past caches tr r (hpre past caches hpast) htr
  exact ⟨horder, Nat.le_trans hbatches hn, fun a after hr => ⟨(hok a after hr).1, hmid _ _ _ (hok a after hr).2⟩⟩

/-- Careful steps compose, and their batches add up. -/
theorem careful_bind (h : Careful controller n pre step mid) {next : α → PlanM β} {post : β → Assertion}
    (hnext : ∀ a, Careful controller m (mid a) (next a) post) :
    Careful controller (n + m) pre (step >>= next) post := by
  intro past caches tr r hpre htr
  rcases Dialogue.transcript_except_bind htr with ⟨e, hstep, rfl⟩ | ⟨front, ⟨a, middle⟩, back, rfl, hstep, hback⟩
  · obtain ⟨horder, hbatches, -⟩ := h past caches tr _ hpre hstep
    exact ⟨horder, Nat.le_add_right_of_le hbatches, nofun⟩
  · obtain ⟨horder, hbatches, hok⟩ := h past caches front _ hpre hstep
    obtain ⟨hwell, hmid⟩ := hok a middle rfl
    obtain ⟨horder', hbatches', hok'⟩ := hnext a (past ++ front) middle back r hmid hback
    refine ⟨horder.append hwell horder', ?_, fun b after hr => ?_⟩
    · rw [batches_append, List.length_append]
      exact Nat.add_le_add hbatches hbatches'
    · obtain ⟨hwell', hpost⟩ := hok' b after hr
      rw [← List.append_assoc]
      exact ⟨fun x hx => (List.mem_append.mp hx).elim (hwell x) (hwell' x), hpost⟩

/-- A step without batches before another. -/
theorem Careful.bind (h : Careful controller 0 pre step mid) {next : α → PlanM β} {post : β → Assertion}
    (hnext : ∀ a, Careful controller m (mid a) (next a) post) : Careful controller m pre (step >>= next) post :=
  Nat.zero_add m ▸ careful_bind h hnext

/-- A step that starts by looking at the caches. -/
theorem careful_get_bind {next : Caches → PlanM β} {post : β → Assertion}
    (h : ∀ seen, Careful controller m (fun past caches => caches = seen ∧ pre past caches) (next seen) post) :
    Careful controller m pre (get >>= next) post := by
  have hget : Careful controller 0 pre get fun seen past caches => caches = seen ∧ pre past caches := by
    refine careful_silent (fun _ => rfl) fun past caches seen after hpre hr => ?_
    obtain ⟨rfl, rfl⟩ := Prod.mk.inj (Except.ok.inj hr)
    exact ⟨rfl, hpre⟩
  exact hget.bind h

/-- Nothing is asked behind a failure. -/
theorem careful_throw_bind {cause : Cause} {next : α → PlanM β} {post : β → Assertion} :
    Careful controller m pre (throw cause >>= next) post := by
  have hthrow : Careful controller 0 pre (throw cause) fun (_ : α) _ _ => False := careful_throw
  exact hthrow.bind fun _ _ _ _ _ hfalse => hfalse.elim

/-- A step that is refused under a condition. -/
theorem careful_unless {p : Prop} [Decidable p] {cause : Cause} {next : Unit → PlanM α}
    (h : ¬p → Careful controller m pre (next ()) mid) :
    Careful controller m pre (if p then throw cause >>= next else next ()) mid := by
  split
  · exact careful_throw_bind
  · next hp => exact h hp

/-- A write to the caches under a condition. -/
theorem careful_modify_if {p : Prop} [Decidable p] {f : Caches → Caches} {next : Unit → PlanM α}
    (hf : ∀ past caches, pre past caches → pre past (f caches)) (h : Careful controller m pre (next ()) mid) :
    Careful controller m pre (if p then modify f >>= next else next ()) mid := by
  split
  · exact (careful_modify hf).bind fun _ => h
  · exact h

/-- A step that starts with what was decoded. -/
theorem careful_ofDecoded_bind {told : Abi.DecodeError → Cause} {decoded : Except Abi.DecodeError α}
    {next : α → PlanM β} {post : β → Assertion} (h : ∀ a, decoded = .ok a → Careful controller m pre (next a) post) :
    Careful controller m pre (ofDecoded told decoded >>= next) post := by
  cases decoded with
  | ok a => exact h a rfl
  | error cause => exact careful_throw_bind

/-- One question has just been asked and answered; before it, another assertion held. -/
def JustAsked (controller : Address) (q : Question) (gives : Exchange → Prop) (pre : Assertion) : Assertion :=
  fun past caches => ∃ before x, past = before ++ [x] ∧ x.1 = q.read controller ∧ gives x ∧ pre before caches

/-- A step that asks one question, which is in order. -/
theorem careful_single {q : Question} {gives : Exchange → α → Prop} (hn : (q.read controller).IsBatch → 0 < n)
    (hmay : ∀ past caches, pre past caches → MayAsk controller past q)
    (hask : ∀ caches tr r, Dialogue.Transcript (step.run caches).run tr r → ∃ x, tr = [x] ∧ x.1 = q.read controller ∧
      ∀ a after, r = .ok (a, after) → ¬Failed x ∧ gives x a ∧ after = caches) :
    Careful controller n pre step fun a => JustAsked controller q (gives · a) pre := by
  intro past caches tr r hpre htr
  obtain ⟨x, rfl, hread, hok⟩ := hask caches tr r htr
  refine ⟨asksInOrder_single hread (hmay past caches hpre), ?_, fun a after hr => ?_⟩
  · rw [batches, asked_cons, asked_nil, hread]
    by_cases hbatch : (q.read controller).IsBatch
    · exact Nat.le_trans (List.length_filter_le _ _) (hn hbatch)
    · rw [List.filter_cons_of_neg (by simpa using hbatch)]
      exact Nat.zero_le n
  · obtain ⟨hwell, hgives, rfl⟩ := hok a after hr
    exact ⟨fun y hy => List.mem_singleton.mp hy ▸ hwell, past, x, rfl, hread, hgives, hpre⟩

/-- A transcript that begins with a question goes on from the answer. -/
theorem transcript_ask_bind {q : Read} {next : q.Answer → PlanM α} {caches : Caches} {tr : List Exchange}
    {r : Except Cause (α × Caches)} (h : Dialogue.Transcript ((ask q >>= next).run caches).run tr r) :
    ∃ answer rest, tr = ⟨q, answer⟩ :: rest ∧ Dialogue.Transcript ((next answer).run caches).run rest r :=
  Dialogue.transcript_ask_iff.mp h

/-- Taking an answer asks nothing, and comes out with the answer only if that is no error. -/
theorem transcript_ofAnswer {answer : Except Report α} {told : Report → Cause} {caches : Caches} {tr : List Exchange}
    {r : Except Cause (α × Caches)} (h : Dialogue.Transcript ((ofAnswer told answer).run caches).run tr r) :
    tr = [] ∧ ∀ a after, r = .ok (a, after) → answer = .ok a ∧ after = caches := by
  cases answer with
  | ok a =>
    obtain ⟨rfl, rfl⟩ := Dialogue.transcript_done_iff.mp h
    refine ⟨rfl, fun b after hr => ?_⟩
    obtain ⟨rfl, rfl⟩ := Prod.mk.inj (Except.ok.inj hr)
    exact ⟨rfl, rfl⟩
  | error cause =>
    obtain ⟨rfl, rfl⟩ := Dialogue.transcript_done_iff.mp h
    exact ⟨rfl, nofun⟩

/-- Asking a contract is careful where the question is in order. -/
theorem careful_readContract {q : Question} {a : Address} {calldata : Bytes} {told : Report → Cause}
    (hq : q.read controller = .contract a calldata) (hn : (q.read controller).IsBatch → 0 < n)
    (hmay : ∀ past caches, pre past caches → MayAsk controller past q) :
    Careful controller n pre (readContract a calldata told) fun data =>
      JustAsked controller q (· = ⟨.contract a calldata, .ok data⟩) pre := by
  refine careful_single hn hmay fun caches tr r h => ?_
  obtain ⟨answer, rest, rfl, hanswer⟩ := transcript_ask_bind h
  obtain ⟨rfl, hok⟩ := transcript_ofAnswer hanswer
  refine ⟨⟨.contract a calldata, answer⟩, rfl, hq.symm, fun data after hr => ?_⟩
  obtain ⟨rfl, hafter⟩ := hok data after hr
  exact ⟨nofun, rfl, hafter⟩

/-- Asking a contract for a number is careful where the question is in order. -/
theorem careful_readNumber {q : Question} {a : Address} {calldata : Bytes}
    (hq : q.read controller = .contract a calldata) (hn : ¬(q.read controller).IsBatch)
    (hmay : ∀ past caches, pre past caches → MayAsk controller past q) :
    Careful controller 0 pre (readNumber a calldata) fun number =>
      JustAsked controller q
        (fun x => ∃ data, x = ⟨.contract a calldata, .ok data⟩ ∧ Abi.uint256Of data 0 = .ok number) pre := by
  refine (careful_readContract hq (fun hbatch => absurd hbatch hn) hmay).bind fun data => ?_
  refine careful_ofDecoded.weaken (Nat.le_refl 0) (fun _ _ h => h) fun number past caches h => ?_
  obtain ⟨hnumber, before, x, hpast, hread, hx, hpre⟩ := h
  exact ⟨before, x, hpast, hread, ⟨data, hx, hnumber⟩, hpre⟩

/-- Asking whether a contract is there is careful where the question is in order. -/
theorem careful_askDeployed {account : Address}
    (hmay : ∀ past caches, pre past caches → MayAsk controller past (.deployed account)) :
    Careful controller 0 pre (ask (.deployed account) >>= ofAnswer .read) fun _ =>
      JustAsked controller (.deployed account) (fun _ => True) pre := by
  refine careful_single nofun hmay fun caches tr r h => ?_
  obtain ⟨answer, rest, rfl, hanswer⟩ := transcript_ask_bind h
  obtain ⟨rfl, hok⟩ := transcript_ofAnswer hanswer
  refine ⟨⟨.deployed account, answer⟩, rfl, rfl, fun deployed after hr => ?_⟩
  obtain ⟨rfl, hafter⟩ := hok deployed after hr
  exact ⟨nofun, trivial, hafter⟩

/-- What has just been read is put into the caches. -/
theorem careful_remember {q : Question} {gives : Exchange → α → Prop} {read : PlanM α} (remember : α → Caches → Caches)
    (hread : Careful controller 0 pre read fun a => JustAsked controller q (gives · a) pre) {post : α → Assertion}
    (hpost : ∀ before x a caches, x.1 = q.read controller → gives x a → pre before caches →
      post a (before ++ [x]) (remember a caches)) :
    Careful controller 0 pre (do let a ← read; modify (remember a); pure a) post := by
  refine hread.bind fun a => ?_
  have hwrite :
      Careful controller 0 (JustAsked controller q (gives · a) pre) (modify (remember a)) fun _ => post a := by
    refine careful_modify fun past caches h => ?_
    obtain ⟨before, x, rfl, hx, hgives, hpre⟩ := h
    exact hpost before x a caches hx hgives hpre
  exact hwrite.bind fun _ => careful_pure fun _ _ h => h

end

/-! ## What the caches remember -/

/-- The caches hold the answer to a question, if they keep answers to such questions. -/
def Caches.Hold (caches : Caches) : Question → Prop
  | .balance token account => ∃ balance, ((token, account), balance) ∈ caches.balances
  | .rate token => ∃ rate, (token, rate) ∈ caches.rates
  | .deployed account => ∃ deployed, (account, deployed) ∈ caches.deployed
  | .receivers salts => ∀ salt ∈ salts, ∃ receiver, (salt, receiver) ∈ caches.receivers
  | .usdt | .payload _ | .feeBps _ | .bpsDenominator _ => True

/-- Nothing is dropped from the caches. -/
structure Caches.Within (caches after : Caches) : Prop where
  receivers : caches.receivers ⊆ after.receivers
  deployed : caches.deployed ⊆ after.deployed
  rates : caches.rates ⊆ after.rates
  balances : caches.balances ⊆ after.balances

/-- Caches lie within themselves. -/
theorem Caches.Within.refl (caches : Caches) : caches.Within caches :=
  ⟨fun _ h => h, fun _ h => h, fun _ h => h, fun _ h => h⟩

/-- An answer that is held is held still when nothing is dropped. -/
theorem Caches.Within.hold {caches after : Caches} (h : caches.Within after) {q : Question} (hq : caches.Hold q) :
    after.Hold q := by
  cases q with
  | balance token account => exact hq.imp fun _ hmem => h.balances hmem
  | rate token => exact hq.imp fun _ hmem => h.rates hmem
  | deployed account => exact hq.imp fun _ hmem => h.deployed hmem
  | receivers salts => exact fun salt hsalt => (hq salt hsalt).imp fun _ hmem => h.receivers hmem
  | _ => trivial

/-- USDT is known, the caches hold what has been asked, and a balance above one in them has been found. -/
structure Remembers (controller usdt : Address) (past : List Exchange) (caches : Caches) : Prop where
  usdt : ∀ data, (⟨.contract controller (readCall Signature.usdt), .ok data⟩ : Exchange) ∈ past →
    Abi.addressOf data 0 = .ok usdt
  hold : ∀ q, q.read controller ∈ asked past → caches.Hold q
  filled : ∀ token account balance, ((token, account), balance) ∈ caches.balances → 1 < balance.val →
    Filled past account

section

variable {controller usdt : Address} {past : List Exchange} {caches after : Caches}

/-- An answer is put into the caches. -/
theorem Remembers.learn (h : Remembers controller usdt past caches) {x : Exchange} {q : Question}
    (hx : x.1 = q.read controller) (hq : q ≠ .usdt) (hwithin : caches.Within after) (hold : after.Hold q)
    (hfilled : ∀ token account balance, ((token, account), balance) ∈ after.balances → 1 < balance.val →
      ((token, account), balance) ∈ caches.balances ∨ Filled (past ++ [x]) account) :
    Remembers controller usdt (past ++ [x]) after where
  usdt data hmem := by
    rcases List.mem_append.mp hmem with hmem | hmem
    · exact h.usdt data hmem
    · have hread : q.read controller = Question.usdt.read controller :=
        hx.symm.trans (congrArg Sigma.fst (List.mem_singleton.mp hmem)).symm
      exact absurd (Question.read_injective controller hread) hq
  hold q' hmem := by
    rw [asked_append, List.mem_append] at hmem
    rcases hmem with hmem | hmem
    · exact hwithin.hold (h.hold q' hmem)
    · have hread : q'.read controller = q.read controller := (List.mem_singleton.mp hmem).trans hx
      exact Question.read_injective controller hread ▸ hold
  filled token account balance hmem hbalance := by
    rcases hfilled token account balance hmem hbalance with hmem | hfound
    · obtain ⟨t, data, b, hseen, hdecoded, hb⟩ := h.filled token account balance hmem hbalance
      exact ⟨t, data, b, List.mem_append_left _ hseen, hdecoded, hb⟩
    · exact hfound

/-- Something else is put into the caches. -/
theorem Remembers.write (h : Remembers controller usdt past caches) (hwithin : caches.Within after)
    (hfilled : ∀ token account balance, ((token, account), balance) ∈ after.balances → 1 < balance.val →
      ((token, account), balance) ∈ caches.balances) : Remembers controller usdt past after where
  usdt := h.usdt
  hold q hmem := hwithin.hold (h.hold q hmem)
  filled token account balance hmem hbalance :=
    h.filled token account balance (hfilled token account balance hmem hbalance) hbalance

end

/-! ## Each read -/

section

variable {controller usdt token account : Address}

/-- Only the question for receivers is a batch. -/
theorem not_isBatch_read {q : Question} (h : ∀ salts, q ≠ .receivers salts) : ¬(q.read controller).IsBatch := by
  intro hbatch
  obtain ⟨salts, hq⟩ := isBatch_read_iff.mp hbatch
  exact h salts hq

/-- The rate of a token other than USDT is asked for once at most. -/
theorem careful_rateOf (htoken : token ≠ usdt) :
    Careful controller 0 (Remembers controller usdt) (rateOf controller token) fun _ => Remembers controller usdt := by
  refine careful_get_bind fun seen => ?_
  cases hfound : seen.rates.lookup token with
  | some rate => exact careful_pure fun _ _ h => h.2
  | none =>
    have hmay : ∀ past caches,
        caches = seen ∧ Remembers controller usdt past caches → MayAsk controller past (.rate token) := by
      rintro past caches ⟨rfl, h⟩
      refine ⟨fun hmem => ?_, fun data hmem heq => ?_⟩
      · obtain ⟨rate, hrate⟩ := h.hold (.rate token) hmem
        exact not_mem_of_lookup hfound rate hrate
      · rw [h.usdt data hmem] at heq
        exact htoken (Except.ok.inj heq).symm
    refine careful_remember (fun rate caches => { caches with rates := (token, rate) :: caches.rates })
      (careful_readNumber (q := .rate token) rfl (not_isBatch_read nofun) hmay) fun before x rate caches hx _ h => ?_
    exact h.2.learn hx nofun { Caches.Within.refl _ with rates := List.subset_cons_self _ _ } ⟨rate, List.mem_cons_self⟩
      fun _ _ _ hmem _ => Or.inl hmem

/-- A balance is asked for once at most, and is in the caches afterwards. -/
theorem careful_balanceOf :
    Careful controller 0 (Remembers controller usdt) (balanceOf token account) fun balance past caches =>
    Remembers controller usdt past caches ∧ ((token, account), balance) ∈ caches.balances := by
  refine careful_get_bind fun seen => ?_
  cases hfound : seen.balances.lookup (token, account) with
  | some balance => exact careful_pure fun past caches h => ⟨h.2, h.1 ▸ mem_of_lookup hfound⟩
  | none =>
    have hmay : ∀ past caches,
        caches = seen ∧ Remembers controller usdt past caches → MayAsk controller past (.balance token account) := by
      rintro past caches ⟨rfl, h⟩ hmem
      obtain ⟨balance, hbalance⟩ := h.hold (.balance token account) hmem
      exact not_mem_of_lookup hfound balance hbalance
    refine careful_remember
      (fun balance caches => { caches with balances := ((token, account), balance) :: caches.balances })
      (careful_readNumber (q := .balance token account) rfl (not_isBatch_read nofun) hmay)
        fun before x balance caches hx hgives h => ?_
    obtain ⟨data, rfl, hdecoded⟩ := hgives
    refine ⟨h.2.learn hx nofun { Caches.Within.refl _ with balances := List.subset_cons_self _ _ }
      ⟨balance, List.mem_cons_self⟩ ?_, List.mem_cons_self⟩
    intro t a b hmem hb
    rcases List.mem_cons.mp hmem with heq | hmem
    · cases heq
      exact Or.inr ⟨token, data, balance, List.mem_append_right _ List.mem_cons_self, hdecoded, hb⟩
    · exact Or.inl hmem

/-- Whether a contract is there is asked once at most, and only for an account with a balance above one. -/
theorem careful_isDeployed :
    Careful controller 0 (fun past caches => Remembers controller usdt past caches ∧ Filled past account)
    (isDeployed account) fun _ => Remembers controller usdt := by
  refine careful_get_bind fun seen => ?_
  cases hfound : seen.deployed.lookup account with
  | some deployed => exact careful_pure fun _ _ h => h.2.1
  | none =>
    have hmay : ∀ past caches, caches = seen ∧ Remembers controller usdt past caches ∧ Filled past account →
        MayAsk controller past (.deployed account) := by
      rintro past caches ⟨rfl, h, hfilled⟩
      refine ⟨fun hmem => ?_, hfilled⟩
      obtain ⟨deployed, hdeployed⟩ := h.hold (.deployed account) hmem
      exact not_mem_of_lookup hfound deployed hdeployed
    have hread : Careful controller 0 _ (do
        let deployed ← ask (.deployed account) >>= ofAnswer .read
        modify fun caches => { caches with deployed := (account, deployed) :: caches.deployed }
        pure deployed) fun _ => Remembers controller usdt :=
      careful_remember (fun deployed caches => { caches with deployed := (account, deployed) :: caches.deployed })
        (careful_askDeployed hmay) fun before x deployed caches hx _ h =>
          h.2.1.learn hx nofun { Caches.Within.refl _ with deployed := List.subset_cons_self _ _ }
            ⟨deployed, List.mem_cons_self⟩ fun _ _ _ hmem _ => Or.inl hmem
    exact hread

/-- The receiver of a salt is looked up without asking. -/
theorem careful_receiverOf {salt : Word} {pre : Assertion} :
    Careful controller 0 pre (receiverOf salt) fun _ => pre := by
  refine careful_get_bind fun seen => ?_
  cases hfound : seen.receivers.lookup salt with
  | some receiver => exact careful_pure fun _ _ h => h.2
  | none => exact careful_throw

/-- The unknown receivers of salts are asked for in one batch at most. -/
theorem careful_predictReceivers {salts : List Word} : Careful controller 1 (Remembers controller usdt)
    (predictReceivers controller salts) fun _ => Remembers controller usdt := by
  refine careful_get_bind fun seen => ?_
  have hnodup : (pendingSalts seen salts).Nodup := nodup_eraseDups _
  have hnone : ∀ salt ∈ pendingSalts seen salts, seen.receivers.lookup salt = none :=
    fun _ => lookup_of_mem_pendingSalts
  generalize pendingSalts seen salts = pending at hnodup hnone ⊢
  dsimp only
  by_cases hpending : pending = []
  · rw [if_pos hpending]
    exact (careful_pure fun _ _ h => h.2).weaken (Nat.zero_le 1) (fun _ _ h => h) fun _ _ _ h => h
  · rw [if_neg hpending]
    -- a pending salt has no receiver in the caches, so no earlier batch of predictions has asked for it
    have hmay : ∀ past caches,
        caches = seen ∧ Remembers controller usdt past caches → MayAsk controller past (.receivers pending) := by
      rintro past caches ⟨rfl, h⟩
      refine ⟨hpending, hnodup, fun earlier hmem salt hsalt hknown => ?_⟩
      obtain ⟨receiver, hreceiver⟩ := h.hold (.receivers earlier) hmem salt hknown
      exact not_mem_of_lookup (hnone salt hsalt) receiver hreceiver
    have hread : Careful controller 1 _ (readContract controller (predictionCall pending) .predict) _ :=
      careful_readContract (q := .receivers pending) rfl (fun _ => Nat.one_pos) hmay
    refine careful_bind hread fun raw => (careful_ofDecoded_bind fun results _ => ?_ : Careful controller 0 _ _ _)
    refine careful_unless fun hcount => careful_ofDecoded_bind fun receivers hreceivers =>
      careful_modify fun past caches h => ?_
    obtain ⟨before, x, rfl, hx, -, -, h⟩ := h
    have hlength : pending.length ≤ receivers.length := by
      rw [Result.length_mapM hreceivers]
      exact Nat.le_of_eq (Decidable.not_not.mp hcount).symm
    refine h.learn hx nofun { Caches.Within.refl _ with receivers := List.subset_append_right _ _ }
      (fun salt hsalt => ?_) fun _ _ _ hmem _ => Or.inl hmem
    rw [← List.map_fst_zip hlength, List.mem_map] at hsalt
    obtain ⟨⟨_, receiver⟩, hzip, rfl⟩ := hsalt
    exact ⟨receiver, List.mem_append_left _ (List.mem_reverse.mpr hzip)⟩

/-- A read whose answer is not remembered. -/
theorem careful_routeContract {q : Question} {a : Address} {calldata : Bytes}
    (hread : q.read controller = .contract a calldata) (hbatch : ¬(q.read controller).IsBatch)
    (hmay : ∀ past, MayAsk controller past q) (hold : ∀ caches : Caches, caches.Hold q) (hq : q ≠ .usdt) :
    Careful controller 0 (Remembers controller usdt) (readContract a calldata) fun _ => Remembers controller usdt := by
  refine (careful_readContract hread (fun h => absurd h hbatch) fun past _ _ => hmay past).weaken (Nat.le_refl 0)
    (fun _ _ h => h) ?_
  rintro data _ caches ⟨past, x, rfl, hx, -, h⟩
  exact h.learn hx hq (.refl caches) (hold caches) fun _ _ _ hmem _ => Or.inl hmem

/-- A number of a route, which no cache keeps, may be asked for every time. -/
theorem careful_routeNumber {q : Question} {a : Address} {calldata : Bytes}
    (hread : q.read controller = .contract a calldata) (hbatch : ¬(q.read controller).IsBatch)
    (hmay : ∀ past, MayAsk controller past q) (hold : ∀ caches : Caches, caches.Hold q) (hq : q ≠ .usdt) :
    Careful controller 0 (Remembers controller usdt) (readNumber a calldata) fun _ => Remembers controller usdt :=
  (careful_routeContract hread hbatch hmay hold hq).bind fun _ =>
    careful_ofDecoded.weaken (Nat.le_refl 0) (fun _ _ h => h) fun _ _ _ h => h.2

end

/-! ## Calls -/

section

variable {controller usdt token : Address} {isUsdt : Bool} {rate : Uint256} {salt : Word} {salts : List Word}

/-- A contract is asked about only where there is something to sweep. -/
theorem careful_sweep : Careful controller 0 (Remembers controller usdt) (sweep isUsdt token rate salt)
    fun _ => Remembers controller usdt := by
  refine careful_receiverOf.bind fun receiver => careful_balanceOf.bind fun balance => ?_
  dsimp only
  split
  · exact careful_pure fun _ _ h => h.1
  · next hamount =>
    -- the sweep leaves one unit behind, so there is more than one when the account is looked at
    have hmore : 1 < balance.val := by
      change ¬balance.val - 1 = 0 at hamount
      omega
    have hasked : Careful controller 0
        (fun past caches => Remembers controller usdt past caches ∧ ((token, receiver), balance) ∈ caches.balances)
        (isDeployed receiver) fun _ => Remembers controller usdt :=
      careful_isDeployed.weaken (Nat.le_refl 0) (fun _ _ h => ⟨h.1, h.1.filled token receiver balance h.2 hmore⟩)
        fun _ _ _ h => h
    refine hasked.bind fun deployed => careful_modify_if (fun past caches h => ?_) ?_
    · exact h.write { Caches.Within.refl _ with deployed := List.subset_cons_self _ _ } fun _ _ _ hmem _ => hmem
    · split
      · exact careful_throw
      · have hwrite : Careful controller 0 (Remembers controller usdt)
            (modify fun caches => { caches with balances := ((token, receiver), .one) :: caches.balances })
            fun _ => Remembers controller usdt := by
          refine careful_modify fun past caches h => ?_
          refine h.write { Caches.Within.refl _ with balances := List.subset_cons_self _ _ } fun t a b hmem hb => ?_
          rcases List.mem_cons.mp hmem with heq | hmem
          · cases heq
            exact absurd hb (Nat.lt_irrefl 1)
          · exact hmem
        exact hwrite.bind fun _ => careful_pure fun _ _ h => h

/-- By induction over the salts. -/
theorem careful_sweepAll : Careful controller 0 (Remembers controller usdt) (sweepAll isUsdt token rate salts)
    fun _ => Remembers controller usdt := by
  induction salts with
  | nil => exact careful_pure fun _ _ h => h
  | cons salt salts ih => exact careful_sweep.bind fun events => ih.bind fun more => careful_pure fun _ _ h => h

/-- A pull at a known rate asks for one batch at most. -/
theorem careful_pullAt : Careful controller 1 (Remembers controller usdt)
    (do
      if rate.val = 0 then throw (.noRate token)
      predictReceivers controller salts
      sweepAll isUsdt token rate salts) fun _ => Remembers controller usdt :=
  careful_unless fun _ => careful_bind careful_predictReceivers fun _ => (careful_sweepAll : Careful controller 0 _ _ _)

/-- A rate is asked for only of another token than USDT, and receivers in one batch. -/
theorem careful_pull : Careful controller 1 (Remembers controller usdt) (pull controller usdt token salts)
    fun _ => Remembers controller usdt := by
  unfold pull
  refine careful_unless fun _ => ?_
  dsimp only
  split
  · exact (careful_pure fun _ _ h => h : Careful controller 0 _ _ fun _ => Remembers controller usdt).bind fun rate =>
      careful_pullAt
  · next htoken =>
    have hother : token ≠ usdt := fun heq => htoken (decide_eq_true heq)
    exact (careful_rateOf hother).bind fun rate => careful_pullAt

/-- A rebalancing asks for no batch. -/
theorem careful_rebalanced {rebalancer : Address} {amount : Uint256} : Careful controller 0 (Remembers controller usdt)
    (rebalanced controller rebalancer amount) fun _ => Remembers controller usdt := by
  refine (careful_routeContract (q := .payload rebalancer) rfl (not_isBatch_read nofun) (fun _ => trivial)
    (fun _ => trivial) nofun).bind fun answer => careful_ofDecoded_bind fun payload _ => careful_unless fun _ => ?_
  refine careful_ofDecoded_bind fun _ _ => careful_ofDecoded_bind fun oft _ => ?_
  refine (careful_routeNumber (q := .feeBps oft) rfl (not_isBatch_read nofun) (fun _ => trivial) (fun _ => trivial)
    nofun).bind fun feeBps => ?_
  refine (careful_routeNumber (q := .bpsDenominator oft) rfl (not_isBatch_read nofun) (fun _ => trivial)
    (fun _ => trivial) nofun).bind fun denominator => ?_
  split
  · exact careful_pure fun _ _ h => h
  · exact careful_throw

/-- How many batches a call asks for at most. -/
def maxBatches : ControllerCall → Nat
  | .pullFromReceivers .. => 1
  | .rebalanceUsdt .. | .isEventChainTip _ => 0

/-- Planning a call asks for no more batches than such a call may. -/
theorem careful_callEvents (call : ControllerCall) : Careful controller (maxBatches call) (Remembers controller usdt)
    (callEvents controller usdt call) fun _ => Remembers controller usdt := by
  cases call with
  | pullFromReceivers token salts => exact careful_pull
  | rebalanceUsdt rebalancer amount => exact careful_rebalanced.bind fun received => careful_pure fun _ _ h => h
  | isEventChainTip tip => exact careful_pure fun _ _ h => h

end

/-! ## Plans -/

/-- What planning a call asks, with its answers: no more batches than the call may ask for. -/
structure PartOf (controller usdt : Address) (call : ControllerCall) (part : List Exchange) : Prop where
  asked : ∃ caches r, Dialogue.Transcript ((callEvents controller usdt call).run caches).run part r
  batches : (batches part).length ≤ maxBatches call

section

variable {controller usdt : Address} {calls : List ControllerCall} {past tr : List Exchange} {caches : Caches}

/-- By induction over the calls: each asks in order after those before it, and the one that fails is the last that
asks. -/
theorem asksInOrder_batchEvents {r : Except Error (List Event)} (hpast : Remembers controller usdt past caches)
    (h : Dialogue.Transcript (batchEvents controller usdt caches calls).run tr r) :
    AsksInOrder controller past tr ∧
      ∃ parts, tr = parts.flatten ∧ List.Forall₂ (PartOf controller usdt) (calls.take parts.length) parts := by
  -- over the calls; what is remembered of the reads so far is the invariant
  induction calls generalizing past caches tr r with
  | nil =>
    obtain ⟨rfl, -⟩ := Dialogue.transcript_pure_iff.mp h
    exact ⟨.nil past, [], rfl, .nil⟩
  | cons call calls ih =>
    rw [batchEvents] at h
    rcases Dialogue.transcript_except_bind h with ⟨e, hcall, rfl⟩ | ⟨front, ⟨first, middle⟩, back, rfl, hcall, hrest⟩
    · obtain ⟨r', hcall⟩ := Dialogue.transcript_adapt hcall
      obtain ⟨horder, hbatches, -⟩ := careful_callEvents call past caches tr r' hpast hcall
      exact ⟨horder, [tr], by simp, .cons ⟨⟨caches, r', hcall⟩, hbatches⟩ .nil⟩
    · have hcall := Dialogue.transcript_adapt_iff.mp hcall
      obtain ⟨horder, hbatches, hok⟩ := careful_callEvents call past caches front _ hpast hcall
      obtain ⟨hwell, hmiddle⟩ := hok first middle rfl
      obtain ⟨r', hmore⟩ : ∃ r', Dialogue.Transcript (batchEvents controller usdt middle calls).run back r' := by
        rcases Dialogue.transcript_except_bind hrest with ⟨e, hmore, -⟩ | ⟨others, more, last, rfl, hmore, hpure⟩
        · exact ⟨_, hmore⟩
        · obtain ⟨rfl, -⟩ := Dialogue.transcript_pure_iff.mp hpure
          rw [List.append_nil]
          exact ⟨_, hmore⟩
      obtain ⟨horder', parts, rfl, hparts⟩ := ih hmiddle hmore
      exact ⟨horder.append hwell horder', front :: parts, rfl, .cons ⟨⟨caches, _, hcall⟩, hbatches⟩ hparts⟩

/-- What is known once USDT has been read. -/
theorem remembers_start {data : Bytes} (h : Abi.addressOf data 0 = .ok usdt) :
    Remembers controller usdt [⟨.contract controller (readCall Signature.usdt), .ok data⟩] {} where
  usdt data' hmem := by
    cases List.mem_singleton.mp hmem
    exact h
  hold q hmem := by
    have hq : q = .usdt := Question.read_injective controller (List.mem_singleton.mp hmem)
    rw [hq]
    trivial
  filled _ _ _ := nofun

/-- A plan asks for USDT and then, if that can be read, for what its calls need. -/
theorem asksInOrder_events {r : Except Error (List Event)}
    (h : Dialogue.Transcript (events controller calls).run tr r) :
    AsksInOrder controller [] tr ∧
      ∃ answer usdt parts, tr = ⟨.contract controller (readCall Signature.usdt), answer⟩ :: parts.flatten ∧
        List.Forall₂ (PartOf controller usdt) (calls.take parts.length) parts := by
  have hfirst : ∀ answer, AsksInOrder controller [] [⟨.contract controller (readCall Signature.usdt), answer⟩] :=
    fun answer => @asksInOrder_single controller [] ⟨_, answer⟩ .usdt rfl rfl
  unfold events at h
  rcases Dialogue.transcript_except_bind h with ⟨e, hread, rfl⟩ | ⟨front, data, back, rfl, hread, hrest⟩
  · obtain ⟨_, answer, _, rfl, hquestion, hdone⟩ := Dialogue.transcript_bind_iff.mp hread
    obtain rfl := Dialogue.transcript_question_iff.mp hquestion
    obtain ⟨rfl, -⟩ := Dialogue.transcript_done_iff.mp hdone
    exact ⟨hfirst answer, answer, controller, [], rfl, .nil⟩
  · obtain ⟨_, answer, _, rfl, hquestion, hdone⟩ := Dialogue.transcript_bind_iff.mp hread
    obtain rfl := Dialogue.transcript_question_iff.mp hquestion
    obtain ⟨rfl, hanswer⟩ := Dialogue.transcript_done_iff.mp hdone
    obtain rfl := Result.mapError_eq_ok.mp hanswer.symm
    rcases Dialogue.transcript_except_bind hrest with ⟨e, hdecoded, -⟩ | ⟨_, usdt, rest, rfl, hdecoded, hbatch⟩
    · obtain ⟨rfl, -⟩ := Dialogue.transcript_done_iff.mp hdecoded
      exact ⟨hfirst (.ok data), .ok data, controller, [], rfl, .nil⟩
    · obtain ⟨rfl, husdt⟩ := Dialogue.transcript_done_iff.mp hdecoded
      obtain ⟨horder, parts, rfl, hparts⟩ :=
        asksInOrder_batchEvents (remembers_start (Result.mapError_eq_ok.mp husdt.symm)) hbatch
      refine ⟨(hfirst (.ok data)).append (fun x hx => ?_) horder, .ok data, usdt, parts, rfl, hparts⟩
      rw [List.mem_singleton.mp hx]
      nofun

end

/-! ## Every plan -/

/-- What planning calls reads, and what of it once at most. -/
structure ReadsOnce (controller : Address) (calls : List ControllerCall) (tr : List Exchange) : Prop where
  /-- Nothing else is read than what answers the questions of planning. -/
  questions : ∀ x ∈ tr, ∃ q, x.1 = Question.read controller q
  /-- A read that fails is the last. -/
  failed : ∀ front x back, tr = front ++ x :: back → Failed x → back = []
  /-- USDT is read first and once, and then call by call, with one batch at most for a sweep and none for other
  calls. -/
  usdt : (asked tr).count (Question.read controller .usdt) = 1
  calls : ∃ answer usdt parts, tr = ⟨.contract controller (readCall Signature.usdt), answer⟩ :: parts.flatten ∧
    List.Forall₂ (PartOf controller usdt) (calls.take parts.length) parts
  balance : ∀ token account, (asked tr).count (Question.read controller (.balance token account)) ≤ 1
  rate : ∀ token, (asked tr).count (Question.read controller (.rate token)) ≤ 1
  /-- The rate of what was read as USDT is not read. -/
  rate_usdt : ∀ data usdt rest, tr = ⟨.contract controller (readCall Signature.usdt), .ok data⟩ :: rest →
    Abi.addressOf data 0 = .ok usdt → Question.read controller (.rate usdt) ∉ asked tr
  deployed : ∀ account, (asked tr).count (Question.read controller (.deployed account)) ≤ 1
  /-- Whether an account is there is asked after more than one unit of some token has been found in it. -/
  filled : ∀ front x back account, tr = front ++ x :: back → x.1 = Question.read controller (.deployed account) →
    Filled front account
  /-- Each batch asks for the receivers of some salts, and no salt is asked for twice, in one batch or in two. -/
  receivers : ∃ groups : List (List Word),
    batches tr = groups.map (fun salts => Question.read controller (.receivers salts)) ∧
    (∀ salts ∈ groups, salts ≠ []) ∧ groups.flatten.Nodup

/-- Whatever is answered, and whether or not a plan comes out, nothing is read again that planning remembers. -/
theorem planning_reads_once {controller : Address} {calls : List ControllerCall} {tr : List Exchange}
    {r : Except Error (List Event)} (h : Dialogue.Transcript (events controller calls).run tr r) :
    ReadsOnce controller calls tr := by
  obtain ⟨horder, hcalls⟩ := asksInOrder_events h
  -- a question in the transcript is the one that its read tells, and is in order after the part in front of it
  have hat : ∀ front x back q, tr = front ++ x :: back → x.1 = Question.read controller q →
      MayAsk controller front q := by
    rintro front x back q rfl hx
    obtain ⟨⟨q', hx', hmay⟩, -⟩ := horder.at
    exact Question.read_injective controller (hx'.symm.trans hx) ▸ hmay
  have honce : ∀ q : Question, (∀ past, MayAsk controller past q → q.read controller ∉ asked past) →
      (asked tr).count (q.read controller) ≤ 1 := fun q hnew => (horder.count_le_one hnew).1
  refine ⟨?_, ?_, ?_, hcalls, fun token account => honce _ fun _ h => h, fun token => honce _ fun _ h => h.1, ?_,
    fun account => honce _ fun _ h => h.1, ?_, ?_⟩
  · -- questions
    intro x hx
    obtain ⟨front, back, rfl⟩ := List.append_of_mem hx
    obtain ⟨⟨q, hq, -⟩, -⟩ := horder.at
    exact ⟨q, hq⟩
  · -- failed
    rintro front x back rfl
    exact horder.at.2
  · -- usdt
    obtain ⟨answer, usdt, parts, rfl, -⟩ := hcalls
    have hle := honce .usdt fun past hpast => by
      rw [hpast]
      exact List.not_mem_nil
    exact Nat.le_antisymm hle (List.count_pos_iff.mpr List.mem_cons_self)
  · -- rate_usdt
    intro data usdt rest htr husdt hmem
    obtain ⟨x, hx, hrate⟩ := List.mem_map.mp hmem
    obtain ⟨front, back, hsplit⟩ := List.append_of_mem hx
    have hother := (hat front x back (.rate usdt) hsplit hrate).2
    cases front with
    | nil =>
      obtain ⟨rfl, -⟩ := List.cons.inj (htr.symm.trans hsplit)
      have husdt : Question.usdt = .rate usdt := Question.read_injective controller hrate
      nomatch husdt
    | cons y front =>
      obtain ⟨rfl, -⟩ := List.cons.inj (htr.symm.trans hsplit)
      exact hother data List.mem_cons_self husdt
  · -- filled
    intro front x back account htr hx
    exact (hat front x back (.deployed account) htr hx).2
  · -- receivers
    obtain ⟨groups, hbatches, hsome, hdistinct, -⟩ := horder.exists_salts
    exact ⟨groups, hbatches, hsome, hdistinct⟩

/-- What two sweeps of the same salts ask, when both salts have one receiver. -/
def sampleQuestions : List Question :=
  [.usdt, .receivers [Octets.ofNat 32 1, Octets.ofNat 32 2], .balance sampleReceiver sampleReceiver,
    .deployed sampleReceiver]

set_option maxRecDepth 20000 in
/-- What two sweeps of the same salts ask, question by question. -/
theorem asked_sampleSweeps : asked ((events sampleReceiver sampleSweeps).run.play scriptedAnswer 0).2.1 =
    sampleQuestions.map (Question.read sampleReceiver) := rfl

/-- The two sweeps of the sample ask `sampleQuestions`, in order and each once. -/
theorem planning_reads_once_sample : ∃ tr r, Dialogue.Transcript (events sampleReceiver sampleSweeps).run tr r ∧
    asked tr = sampleQuestions.map (Question.read sampleReceiver) ∧ ReadsOnce sampleReceiver sampleSweeps tr := by
  have htr := Dialogue.transcript_play scriptedAnswer 0 (events sampleReceiver sampleSweeps).run
  exact ⟨_, _, htr, asked_sampleSweeps, planning_reads_once htr⟩

end CheckpointRelay.Plan
