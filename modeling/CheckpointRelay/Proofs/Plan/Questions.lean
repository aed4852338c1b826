import CheckpointRelay.Proofs.Controller.Selectors
import CheckpointRelay.Proofs.Plan.Steps

/-!
# The questions of planning, and their order

Planning wants to know eight kinds of things (`Question`), and its reads tell what it wants to know
(`Question.read_injective`). `MayAsk` says which questions are in order after what has been asked and answered, and
`AsksInOrder` that each question of a list is. A balance, a rate or a contract is then asked for once at most, and the
receiver of each salt too (`AsksInOrder.count_le_one`, `AsksInOrder.exists_salts`).
-/

namespace CheckpointRelay.Plan

/-- What planning may want to know. -/
inductive Question
  /-- Which token is USDT? -/
  | usdt
  /-- How much of a token does an account have? -/
  | balance (token account : Address)
  /-- What is a token worth? -/
  | rate (token : Address)
  /-- Is there a contract? -/
  | deployed (account : Address)
  /-- Which accounts are the receivers of salts? -/
  | receivers (salts : List Word)
  /-- What is the route of a rebalancer? -/
  | payload (rebalancer : Address)
  /-- What is the fee of a route? -/
  | feeBps (oft : Address)
  /-- What is the fee of a route a part of? -/
  | bpsDenominator (oft : Address)

namespace Question

/-- The read that answers a question. -/
def read (controller : Address) : Question → Read
  | .usdt => .contract controller (readCall Signature.usdt)
  | .balance token account => .contract token (addressReadCall Signature.balanceOf account)
  | .rate token => .contract controller (addressReadCall Signature.lpExchangeRateFor token)
  | .deployed account => .deployed account
  | .receivers salts => .contract controller (predictionCall salts)
  | .payload rebalancer => .contract controller (addressReadCall Signature.payloadFor rebalancer)
  | .feeBps oft => .contract oft (readCall Signature.feeBps)
  | .bpsDenominator oft => .contract oft (readCall Signature.bpsDenominator)

/-- The functions that questions call. -/
def signatures : List String :=
  [Signature.usdt, Signature.balanceOf, Signature.lpExchangeRateFor, Signature.multicall, Signature.payloadFor,
    Signature.feeBps, Signature.bpsDenominator]

/-- The place of the function that a question calls; the question for a contract calls none. -/
def function : Question → Nat
  | .usdt => 0
  | .balance .. => 1
  | .rate _ => 2
  | .receivers _ => 3
  | .payload _ => 4
  | .feeBps _ => 5
  | .bpsDenominator _ => 6
  | .deployed _ => 7

/-- The selectors of these functions. -/
def selectors : List Bytes :=
  signatures.map fun signature => (Abi.selector signature).bytes

/-- The functions that questions call have different selectors. -/
theorem nodup_selectors : selectors.Nodup := by
  simp only [selectors, signatures, List.map_cons, List.map_nil]
  rw [Abi.bytes_selector_eq (by decide), Abi.bytes_selector_eq (by decide), Abi.bytes_selector_eq (by decide),
    Abi.bytes_selector_eq (by decide), Abi.bytes_selector_eq (by decide), Abi.bytes_selector_eq (by decide),
    Abi.bytes_selector_eq (by decide)]
  decide

end Question

/-! ## Reads tell the questions apart -/

/-- The selector in front of what a read asks a contract. -/
def Read.selector? : Read → Option Bytes
  | .contract _ calldata => some (calldata.take 4)
  | .deployed _ => none

/-- A question without arguments begins with its function's selector. -/
theorem take_readCall (signature : String) : (readCall signature).take 4 = (Abi.selector signature).bytes := by
  have h := Abi.take_call (Abi.selector signature) [] []
  rwa [List.append_nil] at h

/-- A question about an address begins with its function's selector. -/
theorem take_addressReadCall (signature : String) (a : Address) :
    (addressReadCall signature a).take 4 = (Abi.selector signature).bytes := by
  have h := Abi.take_call (Abi.selector signature) [Abi.ofAddress a] []
  rwa [List.append_nil] at h

/-- A question for receivers begins with the selector of the batch. -/
theorem take_predictionCall (salts : List Word) :
    (predictionCall salts).take 4 = (Abi.selector Signature.multicall).bytes := by
  rw [predictionCall, Multicall.encode, Abi.callWithTail, Abi.take_call]

/-- Questions about different addresses are different. -/
theorem addressReadCall_injective {signature : String} {a a' : Address}
    (h : addressReadCall signature a = addressReadCall signature a') :
    a = a' := by
  have hwords := Abi.words_injective (List.append_cancel_left h)
  exact Abi.ofAddress_injective (List.singleton_inj.mp hwords)

namespace Question

variable {controller : Address}

/-- The read of a question begins with the selector of the function that it calls. -/
theorem selector?_read (controller : Address) (q : Question) :
    (q.read controller).selector? = selectors[q.function]? := by
  cases q with
  | usdt => exact congrArg some (take_readCall _)
  | balance token account => exact congrArg some (take_addressReadCall _ account)
  | rate token => exact congrArg some (take_addressReadCall _ token)
  | deployed account => rfl
  | receivers salts => exact congrArg some (take_predictionCall salts)
  | payload rebalancer => exact congrArg some (take_addressReadCall _ rebalancer)
  | feeBps oft => exact congrArg some (take_readCall _)
  | bpsDenominator oft => exact congrArg some (take_readCall _)

/-- The place of a question's function is in the list, or right behind it. -/
theorem function_le (q : Question) : q.function ≤ selectors.length := by
  cases q <;> exact Nat.le_of_ble_eq_true rfl

/-- Questions whose reads have the same selector call the same function. -/
theorem function_eq_of_selector? {q q' : Question}
    (h : (q.read controller).selector? = (q'.read controller).selector?) :
    q.function = q'.function := by
  rw [selector?_read, selector?_read] at h
  rcases Nat.lt_or_eq_of_le q.function_le with hlt | heq
  · exact (List.getElem?_inj hlt nodup_selectors).mp h
  · rw [List.getElem?_eq_none (Nat.le_of_eq heq.symm)] at h
    exact Nat.le_antisymm (heq ▸ List.getElem?_eq_none_iff.mp h.symm) (heq ▸ q'.function_le)

/-- Different questions are asked in different reads. -/
theorem read_injective (controller : Address) : Function.Injective (read controller) := by
  intro q q' h
  -- the selector tells which question it is, and then the calldata or the contract tells its arguments
  have hfunction : q.function = q'.function := function_eq_of_selector? (congrArg Read.selector? h)
  cases q with
  | usdt =>
    cases q' with
    | usdt => rfl
    | _ => nomatch hfunction
  | balance token account =>
    cases q' with
    | balance token' account' =>
      obtain ⟨rfl, hcall⟩ := Read.contract.inj h
      rw [addressReadCall_injective hcall]
    | _ => nomatch hfunction
  | rate token =>
    cases q' with
    | rate token' => rw [addressReadCall_injective (Read.contract.inj h).2]
    | _ => nomatch hfunction
  | deployed account =>
    cases q' with
    | deployed account' => rw [Read.deployed.inj h]
    | _ => nomatch hfunction
  | receivers salts =>
    cases q' with
    | receivers salts' => rw [predictionCall_injective (Read.contract.inj h).2]
    | _ => nomatch hfunction
  | payload rebalancer =>
    cases q' with
    | payload rebalancer' => rw [addressReadCall_injective (Read.contract.inj h).2]
    | _ => nomatch hfunction
  | feeBps oft =>
    cases q' with
    | feeBps oft' => rw [(Read.contract.inj h).1]
    | _ => nomatch hfunction
  | bpsDenominator oft =>
    cases q' with
    | bpsDenominator oft' => rw [(Read.contract.inj h).1]
    | _ => nomatch hfunction

end Question

/-! ## What has been asked -/

/-- The questions of a transcript, without their answers. -/
def asked (tr : List Exchange) : List Read :=
  tr.map Sigma.fst

/-- Nothing has been asked in an empty transcript. -/
@[simp] theorem asked_nil : asked [] = [] := rfl

/-- The first exchange gives the first question. -/
@[simp] theorem asked_cons (x : Exchange) (tr : List Exchange) : asked (x :: tr) = x.1 :: asked tr := rfl

/-- The questions of two parts stand one behind the other. -/
@[simp] theorem asked_append (front back : List Exchange) : asked (front ++ back) = asked front ++ asked back :=
  List.map_append

/-- The read is a batch of several. -/
def Read.IsBatch (q : Read) : Prop :=
  q.selector? = some (Abi.selector Signature.multicall).bytes

instance : DecidablePred Read.IsBatch :=
  fun q => inferInstanceAs (Decidable (q.selector? = _))

/-- The batches among the reads of a transcript. -/
def batches (tr : List Exchange) : List Read :=
  (asked tr).filter fun q => q.IsBatch

/-- The batches of two parts stand one behind the other. -/
@[simp] theorem batches_append (front back : List Exchange) :
    batches (front ++ back) = batches front ++ batches back := by
  rw [batches, asked_append, List.filter_append]
  rfl

/-- Receivers are what batches ask for. -/
theorem isBatch_read_iff {controller : Address} {q : Question} :
    (q.read controller).IsBatch ↔ ∃ salts, q = .receivers salts := by
  constructor
  · intro h
    have hfunction : q.function = (Question.receivers []).function :=
      @Question.function_eq_of_selector? controller _ _
        (h.trans (Question.selector?_read controller (.receivers [])).symm)
    cases q with
    | receivers salts => exact ⟨salts, rfl⟩
    | _ => nomatch hfunction
  · rintro ⟨salts, rfl⟩
    exact Question.selector?_read controller (.receivers salts)

/-- The read has failed. -/
inductive Failed : Exchange → Prop
  | contract (a : Address) (calldata : Bytes) (cause : Report) : Failed ⟨.contract a calldata, .error cause⟩
  | deployed (a : Address) (cause : Report) : Failed ⟨.deployed a, .error cause⟩

/-- More than one unit of some token has been found in the account. -/
def Filled (past : List Exchange) (account : Address) : Prop :=
  ∃ token data balance, (⟨.contract token (addressReadCall Signature.balanceOf account), .ok data⟩ : Exchange) ∈ past ∧
    Abi.uint256Of data 0 = .ok balance ∧ 1 < balance.val

/-! ## The order of questions -/

/-- The question is in order after what has been asked and answered. -/
def MayAsk (controller : Address) (past : List Exchange) : Question → Prop
  | .usdt => past = []
  | .balance token account => (Question.balance token account).read controller ∉ asked past
  | .rate token => (Question.rate token).read controller ∉ asked past ∧
    ∀ data, (⟨.contract controller (readCall Signature.usdt), .ok data⟩ : Exchange) ∈ past →
      Abi.addressOf data 0 ≠ .ok token
  | .deployed account => (Question.deployed account).read controller ∉ asked past ∧ Filled past account
  | .receivers salts => salts ≠ [] ∧ salts.Nodup ∧
    ∀ earlier, (Question.receivers earlier).read controller ∈ asked past → ∀ salt ∈ salts, salt ∉ earlier
  | .payload _ | .feeBps _ | .bpsDenominator _ => True

/-- Each question of a transcript is in order after what was asked before, and a read that fails is the last. -/
inductive AsksInOrder (controller : Address) : (past tr : List Exchange) → Prop
  | nil (past : List Exchange) : AsksInOrder controller past []
  | cons {past rest : List Exchange} {x : Exchange} (q : Question) (hread : x.1 = q.read controller)
      (hmay : MayAsk controller past q) (hlast : Failed x → rest = [])
      (hrest : AsksInOrder controller (past ++ [x]) rest) :
      AsksInOrder controller past (x :: rest)

section

variable {controller : Address} {past front back tr : List Exchange}

/-- One question in order is asked in order. -/
theorem asksInOrder_single {x : Exchange} {q : Question} (hread : x.1 = q.read controller)
    (hmay : MayAsk controller past q) :
    AsksInOrder controller past [x] :=
  .cons q hread hmay (fun _ => rfl) (.nil _)

/-- More is asked when nothing has failed. -/
theorem AsksInOrder.append (hfront : AsksInOrder controller past front) (hwell : ∀ x ∈ front, ¬Failed x)
    (hback : AsksInOrder controller (past ++ front) back) : AsksInOrder controller past (front ++ back) := by
  induction hfront with
  | nil past => rwa [List.append_nil] at hback
  | @cons past rest x q hread hmay _ _ ih =>
    obtain ⟨hx, hrest⟩ := List.forall_mem_cons.mp hwell
    refine .cons q hread hmay (fun hfailed => absurd hfailed hx) (ih hrest ?_)
    rwa [List.append_assoc, List.singleton_append]

/-- Wherever a question stands in a transcript, it is in order there. -/
theorem AsksInOrder.at {x : Exchange} (h : AsksInOrder controller past (front ++ x :: back)) :
    (∃ q, x.1 = q.read controller ∧ MayAsk controller (past ++ front) q) ∧ (Failed x → back = []) := by
  induction front generalizing past with
  | nil =>
    rw [List.append_nil]
    obtain ⟨⟩ | ⟨q, hread, hmay, hlast, -⟩ := h
    exact ⟨⟨q, hread, hmay⟩, hlast⟩
  | cons y front ih =>
    obtain ⟨⟩ | ⟨_, _, _, _, hrest⟩ := h
    have hfront := ih hrest
    rwa [List.append_assoc, List.singleton_append] at hfront

/-- A question that is in order only when it has not been asked is asked once at most. -/
theorem AsksInOrder.count_le_one {q : Question}
    (hnew : ∀ past, MayAsk controller past q → q.read controller ∉ asked past) (h : AsksInOrder controller past tr) :
    (asked tr).count (q.read controller) ≤ 1 ∧ (q.read controller ∈ asked past → q.read controller ∉ asked tr) := by
  induction h with
  | nil past => exact ⟨Nat.zero_le 1, fun _ => List.not_mem_nil⟩
  | @cons past rest x q' hread hmay _ _ ih =>
    rw [asked_cons, List.mem_cons, not_or]
    by_cases hq : q' = q
    · subst hq
      have hpast := hnew past hmay
      have hrest := ih.2 (by simp [hread])
      rw [hread, List.count_cons_self, List.count_eq_zero_of_not_mem hrest]
      exact ⟨Nat.le_refl 1, fun hmem => absurd hmem hpast⟩
    · have hne : x.1 ≠ q.read controller := fun heq => hq (Question.read_injective controller (hread.symm.trans heq))
      rw [List.count_cons_of_ne hne]
      exact ⟨ih.1, fun hmem => ⟨Ne.symm hne, ih.2 (by simp [hmem])⟩⟩

/-- Batches ask for the receivers of salts, of some in each, and of no salt twice. -/
theorem AsksInOrder.exists_salts (h : AsksInOrder controller past tr) :
    ∃ groups : List (List Word), batches tr = groups.map (fun salts => (Question.receivers salts).read controller) ∧
      (∀ salts ∈ groups, salts ≠ []) ∧ groups.flatten.Nodup ∧
      ∀ earlier, (Question.receivers earlier).read controller ∈ asked past →
        ∀ salt ∈ groups.flatten, salt ∉ earlier := by
  induction h with
  | nil past => exact ⟨[], rfl, nofun, List.nodup_nil, fun _ _ => nofun⟩
  | @cons past rest x q hread hmay _ _ ih =>
    obtain ⟨groups, hbatches, hne, hnodup, hearlier⟩ := ih
    have hothers : ∀ earlier, (Question.receivers earlier).read controller ∈ asked past →
        ∀ salt ∈ groups.flatten, salt ∉ earlier :=
      fun earlier hmem => hearlier earlier (by simp [hmem])
    by_cases hbatch : x.1.IsBatch
    · obtain ⟨salts, rfl⟩ := isBatch_read_iff.mp (hread ▸ hbatch)
      obtain ⟨hsalts, hdistinct, hnew⟩ := hmay
      have hapart : ∀ salt ∈ groups.flatten, salt ∉ salts := hearlier salts (by simp [hread])
      refine ⟨salts :: groups, ?_, List.forall_mem_cons.mpr ⟨hsalts, hne⟩, ?_, ?_⟩
      · rw [batches, asked_cons, List.filter_cons_of_pos (by simpa using hbatch), hread, List.map_cons, ← hbatches]
        rfl
      · rw [List.flatten_cons, List.nodup_append]
        exact ⟨hdistinct, hnodup, fun salt hsalt other hother heq => hapart other hother (heq ▸ hsalt)⟩
      · intro earlier hmem salt hsalt
        rw [List.flatten_cons, List.mem_append] at hsalt
        exact hsalt.elim (hnew earlier hmem salt) (hothers earlier hmem salt)
    · refine ⟨groups, ?_, hne, hnodup, hothers⟩
      rw [batches, asked_cons, List.filter_cons_of_neg (by simpa using hbatch), ← hbatches]
      rfl

end

end CheckpointRelay.Plan
