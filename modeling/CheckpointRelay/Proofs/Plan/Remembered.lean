import CheckpointRelay.Proofs.Lookup
import CheckpointRelay.Proofs.Plan.Reads

/-!
# What planning remembers shows the chain

The caches hold what has been read and what earlier calls of the batch change. `Caches.over` is the state that they
show: the chain that is read, with the remembered balances and contracts over its own. A read through the caches gives
what that state holds and leaves the state as it is (`outcome_rateOf`, `outcome_balanceOf`, `outcome_isDeployed`); a
write is a step of the state (`over_deploy`, `over_setBalance`).
-/

namespace CheckpointRelay.Plan

/-- The chain with the balances and contracts that the caches hold over its own. -/
def Caches.over (caches : Caches) (chain : Chain) : Chain :=
  { chain with
    balance := fun token account => (caches.balances.lookup (token, account)).getD (chain.balance token account)
    deployed := fun account => (caches.deployed.lookup account).getD (chain.deployed account) }

/-- A balance in the caches hides the chain's. -/
theorem over_balance (caches : Caches) (chain : Chain) (token account : Address) :
    (caches.over chain).balance token account =
      (caches.balances.lookup (token, account)).getD (chain.balance token account) := rfl

/-- A contract in the caches hides the chain's. -/
theorem over_deployed (caches : Caches) (chain : Chain) (account : Address) :
    (caches.over chain).deployed account = (caches.deployed.lookup account).getD (chain.deployed account) := rfl

/-- The receivers and rates in the caches are those of the chain, and the receivers of the salts `known` are among
them. -/
structure Caches.Agree (caches : Caches) (chain : Chain) (known : List Word) : Prop where
  receivers : ∀ entry ∈ caches.receivers, entry.2 = chain.receiver entry.1
  known : ∀ salt ∈ known, (salt, chain.receiver salt) ∈ caches.receivers
  rates : ∀ entry ∈ caches.rates, entry.2 = chain.rate entry.1

/-! ## Writing -/

section

variable {caches : Caches} {chain : Chain}

/-- Remembering a contract is making it. -/
theorem over_deploy (account : Address) :
    Caches.over { caches with deployed := (account, true) :: caches.deployed } chain =
      (caches.over chain).deploy account := by
  simp only [Caches.over, Chain.deploy, Chain.mk.injEq, true_and, and_true]
  funext a
  rw [lookup_cons_eq_ite]
  by_cases h : a = account
  · rw [if_pos h, if_pos h]
    rfl
  · rw [if_neg h, if_neg h]

/-- Remembering a balance is setting it. -/
theorem over_setBalance (token account : Address) (balance : Uint256) :
    Caches.over { caches with balances := ((token, account), balance) :: caches.balances } chain =
      (caches.over chain).setBalance token account balance := by
  simp only [Caches.over, Chain.setBalance, Chain.mk.injEq, true_and, and_true]
  funext t a
  rw [lookup_cons_eq_ite]
  by_cases h : (t, a) = (token, account)
  · rw [if_pos h, if_pos h]
    rfl
  · rw [if_neg h, if_neg h]

/-- Remembering what was read changes nothing. -/
theorem over_readBalance {token account : Address} (h : caches.balances.lookup (token, account) = none) :
    Caches.over { caches with balances := ((token, account), chain.balance token account) :: caches.balances } chain =
      caches.over chain := by
  rw [over_setBalance]
  simp only [Caches.over, Chain.setBalance, Chain.mk.injEq, true_and, and_true]
  funext t a
  by_cases hkey : (t, a) = (token, account)
  · obtain ⟨rfl, rfl⟩ := Prod.mk.inj hkey
    rw [if_pos rfl, h]
    rfl
  · rw [if_neg hkey]

/-- Remembering what the chain says of a contract changes nothing that is shown. -/
theorem over_readDeployed {account : Address} (h : caches.deployed.lookup account = none) :
    Caches.over { caches with deployed := (account, chain.deployed account) :: caches.deployed } chain =
      caches.over chain := by
  simp only [Caches.over, Chain.mk.injEq, true_and, and_true]
  funext a
  rw [lookup_cons_eq_ite]
  by_cases hkey : a = account
  · rw [if_pos hkey, hkey, h]
    rfl
  · rw [if_neg hkey]

end

/-! ## Reading through the caches -/

section

variable {reader : Reader} {chain : Chain} {controller : Address} {calls : List ControllerCall} {caches : Caches}
  {known : List Word}

/-- `Gives step a`: from the caches, the step comes out as `a`, with caches that show the same state and know the same
receivers. -/
def Gives {α : Type} (reader : Reader) (chain : Chain) (known : List Word) (caches : Caches) (step : PlanM α) (a : α) :
    Prop :=
  ∃ caches', outcome reader caches step = .ok (a, caches') ∧ caches'.Agree chain known ∧
    caches'.over chain = caches.over chain

/-- What is not remembered yet is read and then remembered. -/
theorem gives_remembered {α : Type} {read : PlanM α} {a : α} (remember : α → Caches → Caches)
    (hread : outcome reader caches read = .ok (a, caches)) (hagree : (remember a caches).Agree chain known)
    (hover : (remember a caches).over chain = caches.over chain) :
    Gives reader chain known caches (do let b ← read; modify (remember b); pure b) a := by
  refine ⟨remember a caches, ?_, hagree, hover⟩
  rw [outcome_bind_of_ok hread, outcome_bind_of_ok (outcome_modify _), outcome_pure]

/-- Returning a value gives it. -/
theorem gives_pure {α : Type} (hc : caches.Agree chain known) (a : α) : Gives reader chain known caches (pure a) a :=
  ⟨caches, outcome_pure a, hc, rfl⟩

/-- A step that starts by looking at the caches. -/
theorem gives_of_get {α : Type} {next : Caches → PlanM α} {a : α}
    (h : Gives reader chain known caches (next caches) a) :
    Gives reader chain known caches (get >>= next) a := by
  obtain ⟨caches', hout, hc, hover⟩ := h
  exact ⟨caches', by rw [outcome_bind_of_ok outcome_get, hout], hc, hover⟩

/-- Asking for a rate gives the chain's. -/
theorem gives_rateOf (h : reader.Answers chain controller calls) (hc : caches.Agree chain known) (token : Address) :
    Gives reader chain known caches (rateOf controller token) (chain.rate token) := by
  refine gives_of_get ?_
  cases hfound : caches.rates.lookup token with
  | some rate =>
    rw [← hc.rates _ (mem_of_lookup hfound)]
    exact gives_pure hc rate
  | none =>
    refine gives_remembered (fun rate caches => { caches with rates := (token, rate) :: caches.rates })
      (outcome_readNumber (h.rate token)) ⟨hc.receivers, hc.known, ?_⟩ rfl
    intro entry hentry
    rcases List.mem_cons.mp hentry with rfl | hentry
    · rfl
    · exact hc.rates entry hentry

/-- Asking for a balance gives the one that the caches show over the chain. -/
theorem gives_balanceOf (h : reader.Answers chain controller calls) (hc : caches.Agree chain known)
    (token account : Address) :
    Gives reader chain known caches (balanceOf token account) ((caches.over chain).balance token account) := by
  refine gives_of_get ?_
  rw [over_balance]
  cases hfound : caches.balances.lookup (token, account) with
  | some balance => exact gives_pure hc balance
  | none =>
    exact gives_remembered
      (fun balance caches => { caches with balances := ((token, account), balance) :: caches.balances })
      (outcome_readNumber (h.balance token account)) ⟨hc.receivers, hc.known, hc.rates⟩ (over_readBalance hfound)

/-- Asking whether a contract is there gives what the caches show over the chain. -/
theorem gives_isDeployed (h : reader.Answers chain controller calls) (hc : caches.Agree chain known)
    (account : Address) :
    Gives reader chain known caches (isDeployed account) ((caches.over chain).deployed account) := by
  have hread : outcome reader caches (ask (.deployed account) >>= ofAnswer .read) =
      .ok (chain.deployed account, caches) := by
    rw [outcome_bind_of_ok (outcome_ask _), h.deployed, outcome_ofAnswer]
  refine gives_of_get ?_
  rw [over_deployed]
  cases hfound : caches.deployed.lookup account with
  | some deployed => exact gives_pure hc deployed
  | none =>
    exact gives_remembered (fun deployed caches => { caches with deployed := (account, deployed) :: caches.deployed })
      hread ⟨hc.receivers, hc.known, hc.rates⟩ (over_readDeployed hfound)

/-- The receiver of a known salt is the chain's. -/
theorem gives_receiverOf (hc : caches.Agree chain known) {salt : Word} (hsalt : salt ∈ known) :
    Gives reader chain known caches (receiverOf salt) (chain.receiver salt) := by
  refine gives_of_get ?_
  rw [lookup_of_mem hc.receivers (hc.known salt hsalt)]
  exact gives_pure hc _

/-! ## Learning receivers -/

/-- The salts that are asked for are salts of the call. -/
theorem pendingSalts_subset (caches : Caches) (salts : List Word) : pendingSalts caches salts ⊆ salts := by
  intro salt hsalt
  exact (List.mem_filter.mp (List.mem_eraseDups.mp hsalt)).1

/-- A list without its repetitions has none. -/
theorem nodup_eraseDups : (salts : List Word) → salts.eraseDups.Nodup
  | [] => List.nodup_nil
  | salt :: rest => by
    rw [List.eraseDups_cons, List.nodup_cons]
    refine ⟨?_, nodup_eraseDups _⟩
    intro hsalt
    have hne := (List.mem_filter.mp (List.mem_eraseDups.mp hsalt)).2
    simp at hne
termination_by salts => salts.length
decreasing_by
  exact Nat.lt_succ_of_le (List.length_filter_le _ _)

/-- The receiver of a pending salt is not in the caches. -/
theorem lookup_of_mem_pendingSalts {salts : List Word} {salt : Word} (h : salt ∈ pendingSalts caches salts) :
    caches.receivers.lookup salt = none :=
  Option.isNone_iff_eq_none.mp (List.mem_filter.mp (List.mem_eraseDups.mp h)).2

/-- A salt that is not asked for has a receiver already. -/
theorem exists_lookup_of_not_mem_pendingSalts {salts : List Word} {salt : Word} (hsalt : salt ∈ salts)
    (h : salt ∉ pendingSalts caches salts) : ∃ account, caches.receivers.lookup salt = some account := by
  refine Option.ne_none_iff_exists'.mp fun hnone => h ?_
  exact List.mem_eraseDups.mpr (List.mem_filter.mpr ⟨hsalt, Option.isNone_iff_eq_none.mpr hnone⟩)

/-- A salt of the list is pending, or the caches hold its receiver. -/
theorem mem_pendingSalts_or (hc : caches.Agree chain known) {salts : List Word} {salt : Word} (hsalt : salt ∈ salts) :
    salt ∈ pendingSalts caches salts ∨ (salt, chain.receiver salt) ∈ caches.receivers := by
  by_cases hpending : salt ∈ pendingSalts caches salts
  · exact Or.inl hpending
  · obtain ⟨receiver, hfound⟩ := exists_lookup_of_not_mem_pendingSalts hsalt hpending
    have hmem := mem_of_lookup hfound
    have hreceiver : receiver = chain.receiver salt := hc.receivers _ hmem
    exact Or.inr (hreceiver ▸ hmem)

/-- The receivers in the answer to the batch are those of the salts. -/
theorem mapM_addressOf (chain : Chain) (salts : List Word) :
    (salts.map fun salt => (Abi.ofAddress (chain.receiver salt)).bytes).mapM (Abi.addressOf · 0) =
      .ok (salts.map chain.receiver) := by
  induction salts with
  | nil => rfl
  | cons salt rest ih =>
    have haddress : Abi.addressOf (Abi.ofAddress (chain.receiver salt)).bytes 0 = .ok (chain.receiver salt) :=
      Abi.addressOf_of_standsAt (by rw [(Abi.ofAddress _).length_eq]; decide) (.self _)
    rw [List.map_cons, List.mapM_cons, haddress, Result.ok_bind, ih]
    rfl

/-- What is learned at once: the receivers of the salts that are asked for, in front of those known. -/
theorem agree_learned (hc : caches.Agree chain known) (salts : List Word) :
    Caches.Agree { caches with
      receivers := ((pendingSalts caches salts).zip ((pendingSalts caches salts).map chain.receiver)).reverse ++
        caches.receivers }
      chain salts := by
  have hmem : ∀ entry, entry ∈ (pendingSalts caches salts).zip ((pendingSalts caches salts).map chain.receiver) ↔
      entry.1 ∈ pendingSalts caches salts ∧ entry.2 = chain.receiver entry.1 := by
    intro entry
    rw [← List.map_prod_left_eq_zip, List.mem_map]
    constructor
    · rintro ⟨salt, hsalt, rfl⟩
      exact ⟨hsalt, rfl⟩
    · rintro ⟨hsalt, hreceiver⟩
      exact ⟨entry.1, hsalt, Prod.ext rfl hreceiver.symm⟩
  refine ⟨?_, ?_, hc.rates⟩
  · intro entry hentry
    rcases List.mem_append.mp hentry with hentry | hentry
    · exact ((hmem entry).mp (List.mem_reverse.mp hentry)).2
    · exact hc.receivers entry hentry
  · intro salt hsalt
    refine List.mem_append.mpr ?_
    rcases mem_pendingSalts_or hc hsalt with hsalt | hsalt
    · exact Or.inl (List.mem_reverse.mpr ((hmem _).mpr ⟨hsalt, rfl⟩))
    · exact Or.inr hsalt

/-- After predicting, the receivers of all salts of the call are known. -/
theorem gives_predictReceivers (h : reader.Answers chain controller calls) (hc : caches.Agree chain known)
    {token : Address} {salts : List Word} (hcall : .pullFromReceivers token salts ∈ calls) :
    Gives reader chain salts caches (predictReceivers controller salts) () := by
  have hsubset := pendingSalts_subset caches salts
  have hnodup : (pendingSalts caches salts).Nodup := nodup_eraseDups _
  have hlearned := agree_learned hc salts
  refine gives_of_get ?_
  generalize pendingSalts caches salts = pending at hsubset hnodup hlearned
  dsimp only
  by_cases hpending : pending = []
  · rw [if_pos hpending]
    rw [hpending] at hlearned
    exact gives_pure hlearned ()
  · rw [if_neg hpending]
    refine ⟨_, ?_, hlearned, rfl⟩
    rw [outcome_bind_of_ok (outcome_readContract (h.receivers token salts pending hcall hsubset hnodup)),
      h.bytesArrayOf_receivers hcall hsubset hnodup, outcome_bind_of_ok (outcome_ofDecoded _ _), if_neg (by simp),
      mapM_addressOf, outcome_bind_of_ok (outcome_ofDecoded _ _), outcome_modify]

end

end CheckpointRelay.Plan
