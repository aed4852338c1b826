import CheckpointRelay.Proofs.Dialogue.Cut
import CheckpointRelay.Proofs.Node.Lookups
import CheckpointRelay.Proofs.Transaction.Steps

/-!
# What is asked to send and confirm a transaction

`Confirmation` has every way in which a transaction is sent and its outcome awaited: what is asked of the node, what is
answered, and what comes of it. A transaction is sent once, with its fee limit and one signature, and what is asked
afterwards is only what came of it, until a lookup does not come back empty. More lookups make a difference only to a
transaction that is left unconfirmed by fewer.
-/

namespace CheckpointRelay.Node

open Dialogue

/-! ## Ways to confirm a transaction -/

/-- A transaction that can be sent: it has raw data, and the signer signs that with the fee limit in it. -/
structure Ready (settings : ConfirmSettings) (signer : Signer) (t : Transaction) where
  raw : RawTransaction
  signature : Octets 65
  limit_nonneg : ¬settings.feeLimit < 0
  raw_eq : t.raw = some raw
  sign_eq : signer.sign? { raw with feeLimit := settings.feeLimit }.digest = some signature

namespace Ready

variable {settings : ConfirmSettings} {signer : Signer} {t : Transaction}

/-- The raw data with the fee limit. -/
def limited (p : Ready settings signer t) : RawTransaction :=
  { p.raw with feeLimit := settings.feeLimit }

/-- The transaction as it is sent: with the fee limit, and with one signature in place of those it had. -/
def sent (p : Ready settings signer t) : Transaction :=
  { t with raw := some p.limited, signatures := [p.signature.bytes] }

/-- The name under which the transaction is looked up: that of the raw data as it is sent. -/
def txid (p : Ready settings signer t) : String :=
  p.limited.txid

end Ready

/-- Sending and confirming a transaction: what is asked of the node, and what comes of it. -/
inductive Confirmation (settings : ConfirmSettings) (signer : Signer) (t : Transaction) :
    List Exchange → Except Failure String → Prop
  /-- The fee limit is negative. -/
  | negativeLimit (h : settings.feeLimit < 0) :
    Confirmation settings signer t [] (.error (.malformedTransaction s!"negative fee limit {settings.feeLimit.toInt}"))
  /-- There is nothing to sign. -/
  | noRaw (hlimit : ¬settings.feeLimit < 0) (h : t.raw = none) :
    Confirmation settings signer t [] (.error (.malformedTransaction "missing raw_data"))
  /-- The key has no signature for what is to be signed. -/
  | unsigned (hlimit : ¬settings.feeLimit < 0) (raw : RawTransaction) (hraw : t.raw = some raw)
    (h : signer.sign? { raw with feeLimit := settings.feeLimit }.digest = none) :
    Confirmation settings signer t [] (.error (.malformedTransaction "signing failed: signature error"))
  /-- The transaction may or may not have reached the node. -/
  | unsent (p : Ready settings signer t) (cause : Report) :
    Confirmation settings signer t [⟨.broadcast p.sent, .error cause⟩] (.error (.node cause))
  /-- The node refuses the transaction. -/
  | refused (p : Ready settings signer t) (receipt : Receipt) (h : receipt.accepted = false) :
    Confirmation settings signer t [⟨.broadcast p.sent, .ok receipt⟩]
      (.error (.broadcastRejected (if receipt.message = "" then "unknown" else receipt.message)))
  /-- The node accepts the transaction, which is then looked up. -/
  | accepted (p : Ready settings signer t) (receipt : Receipt) (h : receipt.accepted = true) {lookups : List Exchange}
    {res : Except Failure String} (hlookups : Lookups settings p.txid lookups res) :
    Confirmation settings signer t (⟨.broadcast p.sent, .ok receipt⟩ :: lookups) res

/-- A result that says that nothing is known about the transaction. -/
def Unconfirmed {α : Type} (res : Except Failure α) : Prop :=
  ∃ txid total, res = .error (.unconfirmed txid total)

section

variable {settings : ConfirmSettings} {signer : Signer} {t : Transaction} {txid : String} {tr : List Exchange}

/-! ## What is sent -/

/-- A negative fee limit is refused. -/
theorem prepare_of_negative (h : settings.feeLimit < 0) :
    prepare settings signer t = .error (.negativeFeeLimit settings.feeLimit) := by
  unfold prepare
  rw [if_pos h]
  rfl

/-- A transaction without raw data is refused. -/
theorem prepare_of_noRaw (hlimit : ¬settings.feeLimit < 0) (h : t.raw = none) :
    prepare settings signer t = .error .noRaw := by
  unfold prepare Transaction.setFeeLimit Transaction.mapRaw Transaction.getRaw
  rw [if_neg hlimit, h]
  rfl

/-- The fee limit is set in the raw data. -/
theorem setFeeLimit_of_raw {raw : RawTransaction} {limit : Int64} (h : t.raw = some raw) :
    t.setFeeLimit limit = .ok { t with raw := some { raw with feeLimit := limit } } :=
  Transaction.setFeeLimit_eq_ok.mpr ⟨raw, h, rfl⟩

/-- A transaction whose digest the key cannot sign is refused. -/
theorem prepare_of_unsigned (hlimit : ¬settings.feeLimit < 0) {raw : RawTransaction} (hraw : t.raw = some raw)
    (h : signer.sign? { raw with feeLimit := settings.feeLimit }.digest = none) :
    prepare settings signer t = .error .noSignature := by
  unfold prepare
  rw [if_neg hlimit, setFeeLimit_of_raw hraw, Result.ok_bind, Signer.signTransaction, Transaction.getRaw,
    Result.ok_bind, h]
  rfl

/-- What is prepared is the transaction with its fee limit and its signature, under its name. -/
theorem prepare_of_ready (p : Ready settings signer t) : prepare settings signer t = .ok (p.sent, p.txid) :=
  prepare_eq_ok.mpr ⟨p.raw, p.signature, p.limit_nonneg, p.raw_eq, p.sign_eq, rfl, rfl⟩

/-- A transaction can be sent, or it cannot for one of three reasons. -/
theorem ready_or (settings : ConfirmSettings) (signer : Signer) (t : Transaction) :
    settings.feeLimit < 0 ∨ (¬settings.feeLimit < 0 ∧ t.raw = none) ∨
    (¬settings.feeLimit < 0 ∧
      ∃ raw, t.raw = some raw ∧ signer.sign? { raw with feeLimit := settings.feeLimit }.digest = none) ∨
    Nonempty (Ready settings signer t) := by
  by_cases hlimit : settings.feeLimit < 0
  · exact Or.inl hlimit
  cases hraw : t.raw with
  | none => exact Or.inr (Or.inl ⟨hlimit, rfl⟩)
  | some raw =>
    cases hsign : signer.sign? { raw with feeLimit := settings.feeLimit }.digest with
    | none => exact Or.inr (Or.inr (Or.inl ⟨hlimit, raw, rfl, hsign⟩))
    | some signature => exact Or.inr (Or.inr (Or.inr ⟨⟨raw, signature, hlimit, hraw, hsign⟩⟩))

/-- What is prepared to be sent is a transaction that can be sent. -/
theorem ready_of_prepare {sent : Transaction} (h : prepare settings signer t = .ok (sent, txid)) :
    ∃ p : Ready settings signer t, sent = p.sent ∧ txid = p.txid := by
  obtain ⟨raw, signature, hlimit, hraw, hsign, rfl, rfl⟩ := prepare_eq_ok.mp h
  exact ⟨⟨raw, signature, hlimit, hraw, hsign⟩, rfl, rfl⟩

/-! ## What is asked and answered -/

/-- What is asked of the node once it has answered a broadcast. -/
def afterBroadcast (settings : ConfirmSettings) (txid : String) (answer : Except Report Receipt) : NodeM String := do
  let receipt ← NodeM.answered (.done answer)
  if receipt.accepted then
    waitFor settings txid
    return txid
  else throw (rejection receipt)

/-- An accepted transaction is awaited, and one that is refused is not. -/
theorem afterBroadcast_ok (settings : ConfirmSettings) (txid : String) (receipt : Receipt) :
    afterBroadcast settings txid (.ok receipt) =
      if receipt.accepted then waitFor settings txid >>= fun _ => pure txid else throw (rejection receipt) := rfl

/-- Nothing is asked for a transaction that cannot be sent. -/
theorem run_confirm_of_error {e : Transaction.Error} (h : prepare settings signer t = .error e) :
    (confirm settings signer t).run = .done (.error e.toFailure) := by
  unfold confirm
  rw [h]
  rfl

/-- A transaction that can be sent is broadcast first. -/
theorem run_confirm_of_ready (p : Ready settings signer t) :
    (confirm settings signer t).run =
      .ask (.broadcast p.sent) fun answer => (afterBroadcast settings p.txid answer).run := by
  unfold confirm
  rw [prepare_of_ready p]
  rfl

/-- What is asked from the broadcast on is one of the ways to confirm a transaction. -/
theorem confirmation_of_afterBroadcast (p : Ready settings signer t) {answer : Except Report Receipt}
    {res : Except Failure String} (h : Transcript (afterBroadcast settings p.txid answer).run tr res) :
    Confirmation settings signer t (⟨.broadcast p.sent, answer⟩ :: tr) res := by
  cases answer with
  | error cause =>
    obtain ⟨rfl, rfl⟩ := transcript_done_iff.mp h
    exact .unsent p cause
  | ok receipt =>
    rw [afterBroadcast_ok] at h
    by_cases ha : receipt.accepted = true
    · rw [if_pos ha] at h
      rcases transcript_except_bind h with ⟨e, hwait, rfl⟩ | ⟨lookups, _, rest, rfl, hwait, hdone⟩
      · exact .accepted p receipt ha (lookups_of_transcript hwait)
      · obtain ⟨rfl, rfl⟩ := transcript_pure_iff.mp hdone
        rw [List.append_nil]
        exact .accepted p receipt ha (lookups_of_transcript hwait)
    · rw [if_neg ha] at h
      obtain ⟨rfl, rfl⟩ := transcript_throw_iff.mp h
      exact .refused p receipt (Bool.eq_false_iff.mpr ha)

/-- What is asked to confirm a transaction is one of the ways to do it. -/
theorem confirmation_of_transcript {res : Except Failure String}
    (h : Transcript (confirm settings signer t).run tr res) : Confirmation settings signer t tr res := by
  rcases ready_or settings signer t with hlimit | ⟨hlimit, hraw⟩ | ⟨hlimit, raw, hraw, hsign⟩ | ⟨⟨p⟩⟩
  · rw [run_confirm_of_error (prepare_of_negative hlimit)] at h
    obtain ⟨rfl, rfl⟩ := transcript_done_iff.mp h
    exact .negativeLimit hlimit
  · rw [run_confirm_of_error (prepare_of_noRaw hlimit hraw)] at h
    obtain ⟨rfl, rfl⟩ := transcript_done_iff.mp h
    exact .noRaw hlimit hraw
  · rw [run_confirm_of_error (prepare_of_unsigned hlimit hraw hsign)] at h
    obtain ⟨rfl, rfl⟩ := transcript_done_iff.mp h
    exact .unsigned hlimit raw hraw hsign
  · rw [run_confirm_of_ready p] at h
    obtain ⟨answer, rest, rfl, hrest⟩ := Dialogue.transcript_ask_iff.mp h
    exact confirmation_of_afterBroadcast p hrest

/-- Each of the ways to confirm a transaction can be had. -/
theorem transcript_of_confirmation {res : Except Failure String} (h : Confirmation settings signer t tr res) :
    Transcript (confirm settings signer t).run tr res := by
  cases h with
  | negativeLimit h =>
    rw [run_confirm_of_error (prepare_of_negative h)]
    exact .done _
  | noRaw hlimit h =>
    rw [run_confirm_of_error (prepare_of_noRaw hlimit h)]
    exact .done _
  | unsigned hlimit raw hraw h =>
    rw [run_confirm_of_error (prepare_of_unsigned hlimit hraw h)]
    exact .done _
  | unsent p cause =>
    rw [run_confirm_of_ready p]
    exact .ask (.done _)
  | refused p receipt h =>
    rw [run_confirm_of_ready p]
    refine .ask ?_
    rw [afterBroadcast_ok, h]
    exact .done _
  | @accepted p receipt h lookups _ hlookups =>
    obtain ⟨c, hwait, rfl⟩ := transcript_of_lookups hlookups
    rw [run_confirm_of_ready p]
    refine .ask ?_
    rw [afterBroadcast_ok, h]
    cases c with
    | error e => exact hwait.except_error
    | ok _ =>
      rw [← List.append_nil lookups]
      exact hwait.except_ok (.done _)

/-! ## More lookups -/

/-- With more lookups left, as much is looked up and more only if there is no outcome. -/
theorem cutFrom_await (txid : String) (total total' pause first : Nat) {left more : Nat} (h : left ≤ more) :
    CutFrom Unconfirmed (await txid total pause first left).run (await txid total' pause first more).run := by
  induction left generalizing first more with
  | zero => exact .cut ⟨txid, total, rfl⟩ _
  | succ left ih =>
    obtain ⟨more, rfl⟩ := Nat.exists_eq_add_of_le' (Nat.lt_of_lt_of_le (Nat.succ_pos left) h)
    refine .ask fun answer => ?_
    cases answer with
    | error cause => exact .refl _
    | ok found =>
      cases found with
      | none => exact ih pause (Nat.le_of_succ_le_succ h)
      | some found => exact .refl _

/-- With more lookups, as much is asked to confirm a transaction and more only if it is left unconfirmed. -/
theorem cutFrom_confirm (settings : ConfirmSettings) (signer : Signer) (t : Transaction) {more : UInt32}
    (h : settings.lookups ≤ more) :
    CutFrom Unconfirmed (confirm settings signer t).run (confirm { settings with lookups := more } signer t).run := by
  have hprepare : prepare { settings with lookups := more } signer t = prepare settings signer t := rfl
  unfold confirm
  rw [hprepare]
  refine CutFrom.except_right fun ⟨sent, txid⟩ => CutFrom.except_right fun receipt => ?_
  by_cases ha : receipt.accepted = true
  · rw [if_pos ha, if_pos ha]
    refine CutFrom.bind_left (cutFrom_await txid _ _ _ _ (UInt32.le_iff_toNat_le.mp h)) ?_
    rintro _ ⟨name, total, rfl⟩
    exact ⟨.error (.unconfirmed name total), rfl, name, total, rfl⟩
  · rw [if_neg ha, if_neg ha]
    exact .refl _

end

/-- What is asked to confirm a transaction is one of the ways to do it, and each of them can be had. With more lookups,
whoever answers, as much is asked and more only if it was left unconfirmed; otherwise nothing differs. -/
theorem confirm_exact (settings : ConfirmSettings) (signer : Signer) (t : Transaction) :
    (∀ tr res, Transcript (confirm settings signer t).run tr res ↔ Confirmation settings signer t tr res) ∧
    ∀ more, settings.lookups ≤ more → ∀ (σ : Type) (answer : σ → (q : Query) → q.Answer × σ) (s : σ),
      let short := (confirm settings signer t).run.play answer s
      let long := (confirm { settings with lookups := more } signer t).run.play answer s
      short.2.1 <+: long.2.1 ∧ (¬Unconfirmed short.1 → long = short) := by
  refine ⟨fun tr res => ⟨confirmation_of_transcript, transcript_of_confirmation⟩, ?_⟩
  intro more hmore σ answer s
  exact (cutFrom_confirm settings signer t hmore).play answer s

/-! ## A sample -/

/-- Settings with three lookups. -/
def sampleSettings : ConfirmSettings := ⟨150000000, 3, 5⟩

/-- The same settings with a fourth lookup. -/
def patientSettings : ConfirmSettings := { sampleSettings with lookups := 4 }

/-- The signer with the smallest key. -/
def sampleSigner : Signer := ⟨⟨1, by decide, by decide⟩⟩

/-- The raw data of a transaction as a node might build it. -/
def sampleRaw : RawTransaction :=
  { refBlockNumber := 7, timestamp := 9,
    contracts := [TriggerCall.toContract { owner := [1], contract := [2], data := [3] }] }

/-- The transaction, which waits for its fee limit and its signature. -/
def sampleUnsigned : Transaction :=
  { raw := some sampleRaw, signatures := [[1], [2]] }

/-- The sample key signs the sample transaction at its raised fee ceiling. -/
theorem sampleRaw_signed : (sampleSigner.sign? { sampleRaw with feeLimit := 150000000 }.digest).isSome = true := by
  decide +kernel

/-- Three lookups leave the sample unconfirmed, and with a fourth it is found to have succeeded. -/
theorem confirm_exact_sample : ∃ p : Ready sampleSettings sampleSigner sampleUnsigned,
    Transcript (confirm sampleSettings sampleSigner sampleUnsigned).run
      (⟨.broadcast p.sent, .ok ⟨true, ""⟩⟩ :: emptyLookups p.txid 0 5 3) (.error (.unconfirmed p.txid 3)) ∧
    Transcript (confirm patientSettings sampleSigner sampleUnsigned).run
      (⟨.broadcast p.sent, .ok ⟨true, ""⟩⟩ ::
        (emptyLookups p.txid 0 5 3 ++ [lookupExchange p.txid 0 5 3 (.ok (some {}))])) (.ok p.txid) ∧
    ∀ (σ : Type) (answer : σ → (q : Query) → q.Answer × σ) (s : σ),
      ((confirm sampleSettings sampleSigner sampleUnsigned).run.play answer s).2.1 <+:
        ((confirm patientSettings sampleSigner sampleUnsigned).run.play answer s).2.1 := by
  obtain ⟨signature, hsign⟩ := Option.isSome_iff_exists.mp sampleRaw_signed
  let p : Ready sampleSettings sampleSigner sampleUnsigned := ⟨_, signature, by decide, rfl, hsign⟩
  let p' : Ready patientSettings sampleSigner sampleUnsigned := ⟨_, signature, by decide, rfl, hsign⟩
  refine ⟨p, ?_, ?_, ?_⟩
  · exact ((confirm_exact sampleSettings sampleSigner sampleUnsigned).1 _ _).mpr
      (.accepted p ⟨true, ""⟩ rfl .unconfirmed)
  · exact ((confirm_exact patientSettings sampleSigner sampleUnsigned).1 _ _).mpr
      (.accepted p' ⟨true, ""⟩ rfl (.succeeded 3 (by decide) {} rfl))
  · intro σ answer s
    -- the settings are compared by their fields, not by what is asked with them
    unfold patientSettings
    dsimp only
    exact ((confirm_exact sampleSettings sampleSigner sampleUnsigned).2 4 (by decide) σ answer s).1

end CheckpointRelay.Node
