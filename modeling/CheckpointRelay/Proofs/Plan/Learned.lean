import CheckpointRelay.Proofs.Plan.Steps
import CheckpointRelay.Proofs.Result

/-!
# What planning learns and never forgets

`Predicts` is what the answers to planning say of the receivers of salts. Along a plan (`Grows`), the receivers that are
predicted are learned, each salt keeps the one it has, and what is remembered as made or swept stays so. Every read is
shown to keep to this, whatever is answered.
-/

namespace CheckpointRelay.Plan

/-! ## What the answers predict -/

/-- The answers say that the salt has the account as its receiver. -/
def Predicts (controller : Address) (tr : List Exchange) (salt : Word) (account : Address) : Prop :=
  ∃ asked raw results receivers, (⟨.contract controller (predictionCall asked), .ok raw⟩ : Exchange) ∈ tr ∧
    Abi.bytesArrayOf raw 0 = .ok results ∧ results.mapM (Abi.addressOf · 0) = .ok receivers ∧
    (salt, account) ∈ asked.zip receivers

section

variable {controller account : Address} {salt : Word} {tr front back : List Exchange}

/-- A transcript predicts what one of its parts predicts. -/
theorem predicts_append_iff :
    Predicts controller (front ++ back) salt account ↔
      Predicts controller front salt account ∨ Predicts controller back salt account := by
  constructor
  · rintro ⟨asked, raw, results, receivers, hmem, hanswer⟩
    rcases List.mem_append.mp hmem with hmem | hmem
    · exact Or.inl ⟨asked, raw, results, receivers, hmem, hanswer⟩
    · exact Or.inr ⟨asked, raw, results, receivers, hmem, hanswer⟩
  · rintro (⟨asked, raw, results, receivers, hmem, hanswer⟩ | ⟨asked, raw, results, receivers, hmem, hanswer⟩)
    · exact ⟨asked, raw, results, receivers, List.mem_append_left _ hmem, hanswer⟩
    · exact ⟨asked, raw, results, receivers, List.mem_append_right _ hmem, hanswer⟩

/-- None of the questions asks for receivers. -/
def Unpredicting (tr : List Exchange) : Prop :=
  ∀ x ∈ tr, ∀ controller asked, x.1 ≠ .contract controller (predictionCall asked)

/-- Nothing asked predicts nothing. -/
theorem unpredicting_nil : Unpredicting [] := nofun

/-- Parts that do not ask for receivers make a whole that does not. -/
theorem Unpredicting.append (hfront : Unpredicting front) (hback : Unpredicting back) :
    Unpredicting (front ++ back) := by
  intro x hx
  rcases List.mem_append.mp hx with hx | hx
  · exact hfront x hx
  · exact hback x hx

/-- A question for something else does not ask for receivers. -/
theorem unpredicting_contract {a : Address} {calldata : Bytes} {answer : Except Report Bytes}
    (h : ∀ asked, calldata ≠ predictionCall asked) : Unpredicting [⟨.contract a calldata, answer⟩] := by
  intro x hx controller asked heq
  rw [List.mem_singleton.mp hx, Read.contract.injEq] at heq
  exact h asked heq.2

/-- Asking whether a contract is there does not ask for receivers. -/
theorem unpredicting_deployed {a : Address} {answer : Except Report Bool} : Unpredicting [⟨.deployed a, answer⟩] := by
  intro x hx controller asked heq
  rw [List.mem_singleton.mp hx] at heq
  nomatch heq

/-- Where receivers are not asked for, none are predicted. -/
theorem Unpredicting.not_predicts (h : Unpredicting tr) : ¬Predicts controller tr salt account := by
  rintro ⟨asked, raw, _, _, hmem, -⟩
  exact h _ hmem controller asked rfl

/-- What one batch that asks for receivers predicts. -/
theorem predicts_singleton_iff {asked : List Word} {raw : Bytes} {results : List Bytes} {receivers : List Address}
    (hresults : Abi.bytesArrayOf raw 0 = .ok results) (hreceivers : results.mapM (Abi.addressOf · 0) = .ok receivers) :
    Predicts controller [⟨.contract controller (predictionCall asked), .ok raw⟩] salt account ↔
      (salt, account) ∈ asked.zip receivers := by
  constructor
  · rintro ⟨asked', raw', results', receivers', hmem, hresults', hreceivers', hzip⟩
    have heq := List.mem_singleton.mp hmem
    have hasked : asked' = asked := predictionCall_injective (Read.contract.inj (congrArg Sigma.fst heq)).2
    subst hasked
    have hraw : raw' = raw := Except.ok.inj (eq_of_heq (Sigma.mk.inj heq).2)
    rw [hraw, hresults] at hresults'
    rw [← Except.ok.inj hresults', hreceivers] at hreceivers'
    rwa [← Except.ok.inj hreceivers'] at hzip
  · exact fun h => ⟨asked, raw, results, receivers, List.mem_singleton_self _, hresults, hreceivers, h⟩

end

/-! ## What is never forgotten -/

/-- Caches and those after a transcript: the predicted receivers are learned, and a contract or a swept balance stays as
it is. -/
structure Grows (controller : Address) (caches : Caches) (tr : List Exchange) (after : Caches) : Prop where
  receivers : ∀ salt account, after.receivers.lookup salt = some account ↔
    caches.receivers.lookup salt = some account ∨ Predicts controller tr salt account
  deployed : ∀ account, caches.deployed.lookup account = some true → after.deployed.lookup account = some true
  swept : ∀ token account,
    caches.balances.lookup (token, account) = some .one → after.balances.lookup (token, account) = some .one

section

variable {controller token account : Address} {caches middle after : Caches} {tr front back : List Exchange}

/-- Growing along one part and then along the next is growing along both. -/
theorem Grows.trans (hfront : Grows controller caches front middle) (hback : Grows controller middle back after) :
    Grows controller caches (front ++ back) after where
  receivers salt account := by rw [hback.receivers, hfront.receivers, predicts_append_iff, or_assoc]
  deployed account h := hback.deployed account (hfront.deployed account h)
  swept token account h := hback.swept token account (hfront.swept token account h)

/-- Only receivers are learned from predictions. -/
theorem grows_of_receivers_eq (htr : Unpredicting tr) (hreceivers : after.receivers = caches.receivers)
    (hdeployed : ∀ account, caches.deployed.lookup account = some true → after.deployed.lookup account = some true)
    (hswept : ∀ token account, caches.balances.lookup (token, account) = some .one →
      after.balances.lookup (token, account) = some .one) :
    Grows controller caches tr after where
  receivers salt account := by rw [hreceivers, or_iff_left htr.not_predicts]
  deployed := hdeployed
  swept := hswept

/-- Caches that stay have grown along any transcript that does not ask for receivers. -/
theorem grows_refl (htr : Unpredicting tr) : Grows controller caches tr caches :=
  grows_of_receivers_eq htr rfl (fun _ h => h) (fun _ _ h => h)

/-- A receiver once known stays known. -/
theorem Grows.lookup_receiver (h : Grows controller caches tr after) {salt : Word}
    (hsalt : caches.receivers.lookup salt = some account) :
    after.receivers.lookup salt = some account :=
  (h.receivers salt account).mpr (Or.inl hsalt)

/-! ### Writes -/

/-- A contract is remembered. -/
theorem grows_deployed (htr : Unpredicting tr) (deployed : Bool)
    (h : deployed = false → caches.deployed.lookup account ≠ some true) :
    Grows controller caches tr { caches with deployed := (account, deployed) :: caches.deployed } := by
  refine grows_of_receivers_eq htr rfl (fun a ha => ?_) (fun _ _ h => h)
  dsimp only
  rw [lookup_cons_eq_ite]
  split
  · next heq =>
    cases deployed with
    | true => rfl
    | false => exact absurd (heq ▸ ha) (h rfl)
  · exact ha

/-- A balance is remembered. -/
theorem grows_balance (htr : Unpredicting tr) (balance : Uint256)
    (h : balance ≠ .one → caches.balances.lookup (token, account) ≠ some .one) :
    Grows controller caches tr { caches with balances := ((token, account), balance) :: caches.balances } := by
  refine grows_of_receivers_eq htr rfl (fun _ h => h) (fun t a ha => ?_)
  dsimp only
  rw [lookup_cons_eq_ite]
  split
  · next heq =>
    by_cases hone : balance = .one
    · rw [hone]
    · exact absurd (heq ▸ ha) (h hone)
  · exact ha

end

/-! ## What each step leaves -/

section

variable {controller token account : Address} {caches after : Caches} {tr : List Exchange}

/-- Asking for a rate, the caches grow. -/
theorem grows_rateOf {rate : Uint256} (h : Yields caches (rateOf controller token) tr rate after) :
    Grows controller caches tr after := by
  rcases yields_rateOf h with ⟨_, rfl, rfl⟩ | ⟨data, _, rfl, _, rfl⟩
  · exact grows_refl unpredicting_nil
  · exact grows_of_receivers_eq (unpredicting_contract (addressReadCall_ne_predictionCall _ _)) rfl (fun _ h => h)
      (fun _ _ h => h)

/-- Asking for a balance, the caches grow. -/
theorem grows_balanceOf {balance : Uint256} (h : Yields caches (balanceOf token account) tr balance after) :
    Grows controller caches tr after := by
  rcases yields_balanceOf h with ⟨_, rfl, rfl⟩ | ⟨data, hnone, rfl, _, rfl⟩
  · exact grows_refl unpredicting_nil
  · refine grows_balance (unpredicting_contract (addressReadCall_ne_predictionCall _ _)) balance fun _ => ?_
    rw [hnone]
    nofun

/-- What has been swept has one unit left. -/
theorem balanceOf_eq_one {balance : Uint256} (h : Yields caches (balanceOf token account) tr balance after)
    (hswept : caches.balances.lookup (token, account) = some .one) : balance = .one := by
  rcases yields_balanceOf h with ⟨hfound, _, _⟩ | ⟨data, hnone, _⟩
  · exact Option.some.inj (hfound.symm.trans hswept)
  · rw [hnone] at hswept
    nomatch hswept

/-- Asking whether a contract is there, the caches grow. -/
theorem grows_isDeployed {deployed : Bool} (h : Yields caches (isDeployed account) tr deployed after) :
    Grows controller caches tr after := by
  rcases yields_isDeployed h with ⟨_, rfl, rfl⟩ | ⟨hnone, rfl, rfl⟩
  · exact grows_refl unpredicting_nil
  · refine grows_deployed unpredicting_deployed deployed fun _ => ?_
    rw [hnone]
    nofun

/-- What has been found or made is remembered, and what is found is there. -/
theorem isDeployed_eq_true {deployed : Bool} (h : Yields caches (isDeployed account) tr deployed after)
    (hdeployed : caches.deployed.lookup account = some true) : deployed = true := by
  rcases yields_isDeployed h with ⟨hfound, _, _⟩ | ⟨hnone, _⟩
  · exact Option.some.inj (hfound.symm.trans hdeployed)
  · rw [hnone] at hdeployed
    nomatch hdeployed

/-- Whether the contract is there is known afterwards. -/
theorem lookup_isDeployed {deployed : Bool} (h : Yields caches (isDeployed account) tr deployed after) :
    after.deployed.lookup account = some deployed := by
  rcases yields_isDeployed h with ⟨hfound, rfl, rfl⟩ | ⟨hnone, rfl, rfl⟩
  · exact hfound
  · exact List.lookup_cons_self

/-! ### Learning receivers -/

/-- Receivers of salts that had none are found in front of those known. -/
theorem lookup_learned {pending : List Word} {receivers : List Address} {known : List (Word × Address)}
    (hnodup : pending.Nodup) (hlength : pending.length = receivers.length)
    (hnew : ∀ salt ∈ pending, known.lookup salt = none) (salt : Word) (account : Address) :
    ((pending.zip receivers).reverse ++ known).lookup salt = some account ↔
      known.lookup salt = some account ∨ (salt, account) ∈ pending.zip receivers := by
  have hkeys : ((pending.zip receivers).reverse.map Prod.fst).Nodup := by
    rw [List.map_reverse, List.map_fst_zip (Nat.le_of_eq hlength)]
    exact List.pairwise_reverse.mpr (hnodup.imp Ne.symm)
  rw [List.lookup_append, Option.or_eq_some_iff, lookup_eq_some_iff_mem hkeys, List.mem_reverse]
  constructor
  · rintro (hmem | ⟨_, hfound⟩)
    · exact Or.inr hmem
    · exact Or.inl hfound
  · rintro (hfound | hmem)
    · refine Or.inr ⟨List.lookup_eq_none_iff.mpr fun entry hentry => ?_, hfound⟩
      rw [bne_iff_ne]
      rintro rfl
      rw [hnew _ (List.of_mem_zip (List.mem_reverse.mp hentry)).1] at hfound
      nomatch hfound
    · exact Or.inl hmem

/-- Asking for receivers, the caches learn what is predicted. -/
theorem grows_predictReceivers {salts : List Word} {a : Unit}
    (h : Yields caches (predictReceivers controller salts) tr a after) :
    Grows controller caches tr after := by
  rcases yields_predictReceivers h with ⟨_, rfl, rfl⟩
    | ⟨raw, results, receivers, rfl, hresults, hcount, hreceivers, rfl⟩
  · exact grows_refl unpredicting_nil
  · refine ⟨fun salt account => ?_, fun _ h => h, fun _ _ h => h⟩
    rw [predicts_singleton_iff hresults hreceivers]
    exact lookup_learned (nodup_eraseDups _) (hcount.symm.trans (Result.length_mapM hreceivers).symm)
      (fun _ => lookup_of_mem_pendingSalts) salt account

/-- Every salt has a receiver then. -/
theorem exists_lookup_predictReceivers {salts : List Word} {a : Unit}
    (h : Yields caches (predictReceivers controller salts) tr a after) {salt : Word} (hsalt : salt ∈ salts) :
    ∃ account, after.receivers.lookup salt = some account := by
  have hgrows := grows_predictReceivers h
  by_cases hpending : salt ∈ pendingSalts caches salts
  · rcases yields_predictReceivers h with ⟨hnil, _, _⟩ | ⟨raw, results, receivers, rfl, hresults, hcount, hreceivers, _⟩
    · rw [hnil] at hpending
      nomatch hpending
    · have hlength := hcount.symm.trans (Result.length_mapM hreceivers).symm
      rw [← List.map_fst_zip (Nat.le_of_eq hlength), List.mem_map] at hpending
      obtain ⟨⟨_, account⟩, hzip, rfl⟩ := hpending
      exact ⟨account, (hgrows.receivers _ _).mpr (Or.inr ((predicts_singleton_iff hresults hreceivers).mpr hzip))⟩
  · obtain ⟨account, hfound⟩ := exists_lookup_of_not_mem_pendingSalts hsalt hpending
    exact ⟨account, hgrows.lookup_receiver hfound⟩

end

end CheckpointRelay.Plan
