import CheckpointRelay.Proofs.Plan.Stops
import Mathlib.Data.List.Basic

/-!
# Every salt is given its own answer

Predicting receivers asks nothing if all of them are known, and otherwise one question, for those that are not, each
once and in the order in which they first stand among the salts (`FirstUnknown`). The results in the answer go to these
salts one by one (`Assigned`); an answer for which that cannot be is refused (`PredictionRefused`).
`assignsOwn_predictReceivers` says so for every answer.
-/

namespace CheckpointRelay.Plan

/-! ## What is asked for -/

/-- The salts whose receivers are not known, each once, in the order in which they first stand among the salts. -/
structure FirstUnknown (caches : Caches) (salts pending : List Word) : Prop where
  mem : ∀ salt, salt ∈ pending ↔ salt ∈ salts ∧ caches.receivers.lookup salt = none
  order : pending.Pairwise fun s t => salts.idxOf s < salts.idxOf t

/-- What is left of a list without repetitions stands in the order of first occurrences, by induction over the list. -/
theorem pairwise_eraseDups_filter {α : Type} [BEq α] [LawfulBEq α] (p : α → Bool) (as : List α) :
    (as.filter p).eraseDups.Pairwise fun a b => as.idxOf a < as.idxOf b := by
  induction as generalizing p with
  | nil => exact .nil
  | cons a as ih =>
    -- behind the first element, everything that differs from it stands one place further
    have hlater : ∀ q : α → Bool, (∀ b, q b = true → b ≠ a) →
        (as.filter q).eraseDups.Pairwise fun b c => (a :: as).idxOf b < (a :: as).idxOf c := by
      intro q hq
      refine (ih q).imp_of_mem fun {b c} hb hc hlt => ?_
      have hne : ∀ d ∈ (as.filter q).eraseDups, a ≠ d :=
        fun d hd => (hq d (List.mem_filter.mp (List.mem_eraseDups.mp hd)).2).symm
      rw [List.idxOf_cons_ne _ (hne b hb), List.idxOf_cons_ne _ (hne c hc)]
      exact Nat.succ_lt_succ hlt
    by_cases hp : p a = true
    · rw [List.filter_cons_of_pos hp, List.eraseDups_cons, List.filter_filter, List.pairwise_cons]
      refine ⟨fun b hb => ?_, hlater _ fun b hb => ?_⟩
      · have hne : b ≠ a := by
          have hkept := (List.mem_filter.mp (List.mem_eraseDups.mp hb)).2
          simpa using (Bool.and_eq_true_iff.mp hkept).1
        rw [List.idxOf_cons_self, List.idxOf_cons_ne _ hne.symm]
        exact Nat.succ_pos _
      · simpa using (Bool.and_eq_true_iff.mp hb).1
    · rw [List.filter_cons_of_neg hp]
      exact hlater p fun b hb heq => hp (heq ▸ hb)

/-- The pending salts are the unknown ones, each once and in order. -/
theorem firstUnknown_pendingSalts (caches : Caches) (salts : List Word) :
    FirstUnknown caches salts (pendingSalts caches salts) where
  mem salt := by rw [pendingSalts, List.mem_eraseDups, List.mem_filter, Option.isNone_iff_eq_none]
  order := pairwise_eraseDups_filter _ salts

/-- No salt is pending twice. -/
theorem FirstUnknown.nodup {caches : Caches} {salts pending : List Word} (h : FirstUnknown caches salts pending) :
    pending.Nodup :=
  h.order.imp fun {s t} hlt (heq : s = t) => absurd hlt (heq ▸ Nat.lt_irrefl _)

/-! ## What the answer comes to -/

/-- The results go to the salts one by one, and nothing else changes. -/
structure Assigned (caches : Caches) (pending : List Word) (results : List Bytes) (after : Caches) : Prop where
  count : results.length = pending.length
  own : ∀ (i : Nat) (salt : Word) (result : Bytes), pending[i]? = some salt → results[i]? = some result →
    ∃ account, Abi.addressOf result 0 = .ok account ∧ after.receivers.lookup salt = some account
  others : ∀ salt ∉ pending, after.receivers.lookup salt = caches.receivers.lookup salt
  rest : after = { caches with receivers := after.receivers }

/-- Why the answer to the batch that asks for receivers is refused. -/
inductive PredictionRefused (pending : List Word) : Except Report Bytes → Cause → Prop
  /-- The read failed. -/
  | unanswered (e : Report) : PredictionRefused pending (.error e) (.predict e)
  /-- The answer is no list of results. -/
  | garbled {raw : Bytes} {e : Abi.DecodeError} (hresults : Abi.bytesArrayOf raw 0 = .error e) :
    PredictionRefused pending (.ok raw) (.decode e)
  /-- There are more or fewer results than salts. -/
  | miscounted {raw : Bytes} {results : List Bytes} (hresults : Abi.bytesArrayOf raw 0 = .ok results)
      (hcount : results.length ≠ pending.length) :
      PredictionRefused pending (.ok raw) (.predictionCount results.length pending.length)
  /-- A result is no address. -/
  | noAddress {raw result : Bytes} {results : List Bytes} {e : Abi.DecodeError}
      (hresults : Abi.bytesArrayOf raw 0 = .ok results) (hcount : results.length = pending.length)
      (hmem : result ∈ results) (haddress : Abi.addressOf result 0 = .error e) :
      PredictionRefused pending (.ok raw) (.decode e)

section

variable {controller : Address} {caches after : Caches} {salts pending : List Word} {tr : List Exchange}

/-- A refused prediction is a foreseen cause. -/
theorem PredictionRefused.foreseen {answer : Except Report Bytes} {cause : Cause}
    (h : PredictionRefused pending answer cause) :
    cause.Foreseen := by
  cases h <;> nofun

/-- Receivers that are learned in front of those known are the accounts in the results. -/
theorem assigned_learned {results : List Bytes} {receivers : List Address}
    (hpending : FirstUnknown caches salts pending) (hcount : results.length = pending.length)
    (hreceivers : results.mapM (Abi.addressOf · 0) = .ok receivers) :
    Assigned caches pending results
      { caches with receivers := (pending.zip receivers).reverse ++ caches.receivers } := by
  have hlength : pending.length = receivers.length := by rw [Result.length_mapM hreceivers, hcount]
  have hlookup := lookup_learned hpending.nodup hlength fun salt hsalt => ((hpending.mem salt).mp hsalt).2
  refine ⟨hcount, fun i salt result hsalt hresult => ?_, fun salt hsalt => Option.ext fun account => ?_, rfl⟩
  · obtain ⟨hi, rfl⟩ := List.getElem?_eq_some_iff.mp hsalt
    obtain ⟨hi', rfl⟩ := List.getElem?_eq_some_iff.mp hresult
    have hdecoded := (List.forall₂_iff_get.mp (Result.mapM_eq_ok_iff.mp hreceivers)).2 i hi' (hlength ▸ hi)
    exact ⟨_, hdecoded, (hlookup _ _).mpr
      (Or.inr (List.mem_iff_getElem.mpr ⟨i, by simp [hi, ← hlength], List.getElem_zip⟩))⟩
  · exact (hlookup salt account).trans (or_iff_left fun hmem => hsalt (List.of_mem_zip hmem).1)

/-- Predicting fails only by refusing the answer to its one batch. -/
theorem stops_predictReceivers {cause : Cause} (h : Stops caches (predictReceivers controller salts) tr cause) :
    pendingSalts caches salts ≠ [] ∧ ∃ answer,
      tr = [⟨.contract controller (predictionCall (pendingSalts caches salts)), answer⟩] ∧
      PredictionRefused (pendingSalts caches salts) answer cause := by
  have hstep := stops_get_bind h
  generalize pendingSalts caches salts = pending at hstep ⊢
  dsimp only at hstep
  by_cases hpending : pending = []
  · rw [if_pos hpending] at hstep
    exact absurd hstep not_stops_pure
  rw [if_neg hpending] at hstep
  refine ⟨hpending, ?_⟩
  rcases stops_bind hstep with hread | ⟨front, raw, _, back, rfl, hread, hanswered⟩
  · obtain ⟨e, rfl, rfl⟩ := stops_readContract hread
    exact ⟨_, rfl, .unanswered e⟩
  obtain ⟨rfl, rfl⟩ := yields_readContract_iff.mp hread
  rcases stops_bind hanswered with hfirst | ⟨front, results, _, back, rfl, hfirst, hsplit⟩
  · obtain ⟨e, hresults, rfl, rfl⟩ := stops_ofDecoded hfirst
    exact ⟨_, rfl, .garbled hresults⟩
  obtain ⟨rfl, hresults, rfl⟩ := yields_ofDecoded_iff.mp hfirst
  rcases stops_unless hsplit with ⟨hcount, rfl, rfl⟩ | ⟨hcount, hcounted⟩
  · exact ⟨_, rfl, .miscounted hresults hcount⟩
  rcases stops_bind hcounted with hsecond | ⟨front, receivers, _, back, rfl, hsecond, hmodify⟩
  · obtain ⟨e, hreceivers, rfl, rfl⟩ := stops_ofDecoded hsecond
    obtain ⟨result, hmem, haddress⟩ := Result.exists_of_mapM_eq_error hreceivers
    exact ⟨_, rfl, .noAddress hresults (Decidable.not_not.mp hcount) hmem haddress⟩
  · exact absurd hmodify not_stops_modify

/-- What predicting the receivers of salts asks, and what it comes to. -/
structure AssignsOwn (controller : Address) (caches : Caches) (salts : List Word) (tr : List Exchange)
    (r : Except Cause (Unit × Caches)) : Prop where
  /-- Receivers that are all known are not asked for. -/
  known : (∀ salt ∈ salts, ∃ account, caches.receivers.lookup salt = some account) → tr = [] ∧ r = .ok ((), caches)
  /-- Otherwise there is one read, for those that are not known, and its results go to their salts, or it is refused. -/
  unknown : (¬∀ salt ∈ salts, ∃ account, caches.receivers.lookup salt = some account) → ∃ pending answer,
    FirstUnknown caches salts pending ∧
    tr = [⟨.contract controller
      (Multicall.encode (pending.map fun salt => Abi.call (Abi.selector Signature.predictReceiverAddress) [salt])),
      answer⟩] ∧
    (∀ after, r = .ok ((), after) → ∃ raw results, answer = .ok raw ∧
       Abi.bytesArrayOf raw 0 = .ok results ∧ Assigned caches pending results after) ∧
    ∀ cause, r = .error cause → PredictionRefused pending answer cause

/-- No salt is pending exactly when all receivers are known. -/
theorem pendingSalts_eq_nil_iff :
    pendingSalts caches salts = [] ↔ ∀ salt ∈ salts, ∃ account, caches.receivers.lookup salt = some account := by
  rw [List.eq_nil_iff_forall_not_mem]
  simp only [(firstUnknown_pendingSalts caches salts).mem, not_and, ← Option.isSome_iff_exists,
    Option.isSome_iff_ne_none]

/-- Nothing is asked for receivers that are known. -/
theorem yields_predictReceivers_of_known (hknown : pendingSalts caches salts = []) {a : Unit}
    (h : Yields caches (predictReceivers controller salts) tr a after) : tr = [] ∧ after = caches := by
  have hstep := yields_get_bind h
  dsimp only at hstep
  rw [if_pos hknown] at hstep
  obtain ⟨rfl, -, rfl⟩ := yields_pure_iff.mp hstep
  exact ⟨rfl, rfl⟩

/-- Whatever is answered, each salt is given its own result. -/
theorem assignsOwn_predictReceivers {r : Except Cause (Unit × Caches)}
    (h : Dialogue.Transcript ((predictReceivers controller salts).run caches).run tr r) :
    AssignsOwn controller caches salts tr r := by
  have hfirst := firstUnknown_pendingSalts caches salts
  cases r with
  | error cause =>
    obtain ⟨hsome, answer, rfl, hrefused⟩ := stops_predictReceivers h
    refine ⟨fun hknown => absurd (pendingSalts_eq_nil_iff.mpr hknown) hsome,
      fun _ => ⟨_, answer, hfirst, rfl, nofun, ?_⟩⟩
    rintro _ ⟨⟩
    exact hrefused
  | ok result =>
    obtain ⟨⟨⟩, after⟩ := result
    constructor
    · intro hknown
      obtain ⟨rfl, rfl⟩ := yields_predictReceivers_of_known (pendingSalts_eq_nil_iff.mpr hknown) h
      exact ⟨rfl, rfl⟩
    · intro hunknown
      rcases yields_predictReceivers h with ⟨hnil, -, -⟩
        | ⟨raw, results, receivers, rfl, hresults, hcount, hreceivers, rfl⟩
      · exact absurd (pendingSalts_eq_nil_iff.mp hnil) hunknown
      · refine ⟨_, .ok raw, hfirst, rfl, ?_, nofun⟩
        rintro _ ⟨⟩
        exact ⟨raw, results, rfl, hresults, assigned_learned hfirst hcount hreceivers⟩

end

end CheckpointRelay.Plan
