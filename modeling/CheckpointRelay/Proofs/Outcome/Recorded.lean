import CheckpointRelay.Node.Confirm
import CheckpointRelay.Proofs.Node.Reply
import CheckpointRelay.Proofs.Node.Request
import CheckpointRelay.Proofs.Outcome.RoundTrip

/-!
# What a node has recorded is what is learned

A response tells an outcome when it is a success and its value writes the outcome and names no error (`Outcome.Tells`).
`Outcome.Recorded` says what such an outcome comes to: every value that writes it is read as it, and so is the text of
the value; a node that tells it is not taken for one that has nothing to tell, and it decides the wait for the
transaction at once. Every outcome is recorded so (`Outcome.reads_back`).
-/

namespace CheckpointRelay

open Dialogue Node

namespace Outcome

/-- A response tells the outcome. -/
def Tells (o : Outcome) (response : Http.Response) : Prop :=
  response.isSuccess = true ∧
    ∃ v, Json.parseBytes response.body = .ok v ∧ o.Writes v ∧ ∀ message, ¬v.Leads [.member "Error"] (.text message)

/-- What comes of waiting for a transaction with this outcome. -/
def verdict (o : Outcome) (txid : String) : Except Failure Unit :=
  if o.isFailed then .error (.executionFailed txid o.describe) else .ok ()

/-- What a node has recorded as the outcome is what is learned of it. -/
structure Recorded (o : Outcome) : Prop where
  /-- What is written of the outcome writes it, and is a value that the reader accepts. -/
  written : o.Writes o.toTree ∧ Json.Readable 127 o.toTree
  /-- Whatever writes the outcome is read as it. -/
  read : ∀ v, o.Writes v → ofTree? v = some o
  /-- So is the text of it. -/
  text : ∀ v, o.Writes v → Json.Readable 127 v →
    (Json.parseBytes (Utf8.encode (Json.render v))).map ofTree? = .ok (some o)
  /-- A response with the text tells the outcome, unless it names an error. -/
  told : ∀ v, o.Writes v → Json.Readable 127 v → (∀ message, ¬v.Leads [.member "Error"] (.text message)) →
    ∀ status, 200 ≤ status ∧ status < 300 → o.Tells ⟨status, Utf8.encode (Json.render v)⟩
  /-- A node that tells the outcome when it is asked is understood. -/
  answered : ∀ (e : Endpoint) (txid : String) (pause : Nat) (request : Http.Request),
    e.request (.outcome txid pause) = .ok request →
    ∀ (σ : Type) (answer : σ → (q : Outside) → q.Answer × σ),
      (∀ s, ∃ response, (answer s (.exchange request)).1 = .ok response ∧ o.Tells response) →
      ∀ s, ((e.ask (.outcome txid pause)).play answer s).1 = .ok (some o)
  /-- Whatever else happens, no outcome that is told is taken for none: there is an error exactly if there is no
  response. -/
  asked : ∀ (e : Endpoint) (txid : String) (pause : Nat) tr r, Transcript (e.ask (.outcome txid pause)) tr r →
    (∀ response, Responds response tr → o.Tells response) →
    r = .ok (some o) ∨ (∃ cause, r = .error cause) ∧ ∀ response, ¬Responds response tr
  /-- The first lookup ends the wait, with what the outcome comes to or, without a response, with an error. -/
  awaited : ∀ (e : Endpoint) (txid : String) (total pause first left : Nat) tr c,
    Transcript (e.connect (await txid total pause first (left + 1)).run) tr c →
    (∀ response, Responds response tr → o.Tells response) →
    c = o.verdict txid ∨ (∃ cause, c = .error (.node cause)) ∧ ∀ response, ¬Responds response tr

namespace RecordedAux

variable {o : Outcome} {v : Tree} {e : Endpoint} {txid : String}

/-- An outcome that is told is there: the table that writes it is not empty. -/
theorem readOutcome_of_writes (h : o.Writes v) : readOutcome v = .ok (some o) := by
  have hread := ofTree?_of_writes h
  obtain ⟨inside, members, rfl, -, hextends⟩ := h
  cases members with
  | nil =>
    have hempty : o.record inside = [] := List.perm_nil.mp hextends.symm
    have hid : ("id", Tree.text o.id) ∈ o.record inside := List.mem_cons_self
    rw [hempty] at hid
    nomatch hid
  | cons m members =>
    rw [readOutcome, hread]

/-- A response that tells an outcome is read as it. -/
theorem readReply_of_tells {pause : Nat} {response : Http.Response} (h : o.Tells response) :
    e.readReply (.outcome txid pause) response = .ok (some o) := by
  obtain ⟨hsuccess, v, hparse, hwrites, hnoError⟩ := h
  have hvalue : readResponse (e.url (.outcome txid pause)) response = .ok v :=
    readResponse_eq_ok_iff.mpr ⟨hsuccess, hparse, hnoError⟩
  rw [Endpoint.readReply, hvalue, Result.ok_bind, Query.read, readOutcome_of_writes hwrites]

/-- Asking for an outcome gives the one every response tells, or fails with no response. -/
theorem asked {pause : Nat} {tr : List (Dialogue.Exchange Outside Outside.Answer)}
    {r : Except ReplyError (Option Outcome)} (h : Transcript (e.ask (.outcome txid pause)) tr r)
    (htells : ∀ response, Responds response tr → o.Tells response) :
    r = .ok (some o) ∨ (∃ cause, r = .error cause) ∧ ∀ response, ¬Responds response tr := by
  rcases readReply_of_transcript h with ⟨cause, rfl, hnone⟩ | ⟨response, hresponds, rfl⟩
  · exact .inr ⟨⟨cause, rfl⟩, hnone⟩
  · exact .inl (readReply_of_tells (htells response hresponds))

/-- If there is a request, it is answered, and a response to it is what is read. -/
theorem exchange_of_transcript {q : Query} {request : Http.Request} (hrequest : e.request q = .ok request)
    {tr : List (Dialogue.Exchange Outside Outside.Answer)} {r : Except ReplyError q.Content}
    (h : Transcript (e.ask q) tr r) :
    ∃ answer : Except Http.Fault Http.Response, ⟨.exchange request, answer⟩ ∈ tr ∧
      ∀ response, answer = .ok response → r = e.readReply q response := by
  obtain ⟨front, back, rfl, -, hput⟩ := exists_put_of_ask h
  rcases transcript_put_iff.mp hput with ⟨refusal, hrefusal, -, -⟩
    | ⟨request', hrequest', ⟨fault, rfl, -⟩ | ⟨response, rfl, rfl⟩⟩
  · rw [hrequest] at hrefusal
    nomatch hrefusal
  · obtain rfl := Except.ok.inj (hrequest.symm.trans hrequest')
    exact ⟨.error fault, List.mem_append_right _ (List.mem_singleton_self _), nofun⟩
  · obtain rfl := Except.ok.inj (hrequest.symm.trans hrequest')
    refine ⟨.ok response, List.mem_append_right _ (List.mem_singleton_self _), fun response' hresponse => ?_⟩
    rw [Except.ok.inj hresponse]

/-- Against a node that answers every request with the outcome, asking gives the outcome. -/
theorem answered {pause : Nat} {request : Http.Request} (hrequest : e.request (.outcome txid pause) = .ok request)
    {σ : Type} {answer : σ → (q : Outside) → q.Answer × σ}
    (hserves : ∀ s, ∃ response, (answer s (.exchange request)).1 = .ok response ∧ o.Tells response) (s : σ) :
    ((e.ask (.outcome txid pause)).play answer s).1 = .ok (some o) := by
  obtain ⟨given, hmem, hread⟩ :=
    exchange_of_transcript hrequest (transcript_play answer s (e.ask (.outcome txid pause)))
  obtain ⟨s', hgiven⟩ := answer_of_mem_play _ hmem
  obtain ⟨response, hresponse, htells⟩ := hserves s'
  rw [hread response (hgiven.trans hresponse), readReply_of_tells htells]

/-- The wait goes on only after a lookup that finds nothing. -/
theorem connect_await (e : Endpoint) (txid : String) (total pause first left : Nat) :
    e.connect (await txid total pause first (left + 1)).run = (e.ask (.outcome txid first)).bind fun reply =>
      match reply with
      | .error cause => .done (.error (.node cause.report))
      | .ok none => e.connect (await txid total pause pause left).run
      | .ok (some found) => .done (found.verdict txid) := by
  unfold Endpoint.connect
  refine (Dialogue.bind_assoc _ _ _).trans (congrArg _ (funext fun reply => ?_))
  match reply with
  | .error cause => rfl
  | .ok none => rfl
  | .ok (some found) =>
    have hfound : (if found.isFailed then throw (.executionFailed txid found.describe) else pure () : NodeM Unit).run =
        .done (found.verdict txid) := by
      unfold verdict
      cases found.isFailed with
      | true => rfl
      | false => rfl
    exact congrArg (Dialogue.interpret _) hfound

/-- Waiting for an outcome ends with its verdict at the first lookup, or fails with no response. -/
theorem awaited {total pause first left : Nat} {tr : List (Dialogue.Exchange Outside Outside.Answer)}
    {c : Except Failure Unit} (h : Transcript (e.connect (await txid total pause first (left + 1)).run) tr c)
    (htells : ∀ response, Responds response tr → o.Tells response) :
    c = o.verdict txid ∨ (∃ cause, c = .error (.node cause)) ∧ ∀ response, ¬Responds response tr := by
  rw [connect_await] at h
  obtain ⟨front, reply, back, rfl, hask, hrest⟩ := transcript_bind_iff.mp h
  have hfront : ∀ response, Responds response front → o.Tells response := by
    rintro response ⟨request, hmem⟩
    exact htells response ⟨request, List.mem_append_left _ hmem⟩
  rcases asked hask hfront with rfl | ⟨⟨cause, rfl⟩, hnone⟩
  · exact .inl (transcript_done_iff.mp hrest).2
  · obtain ⟨rfl, rfl⟩ := transcript_done_iff.mp hrest
    rw [List.append_nil]
    exact .inr ⟨⟨cause.report, rfl⟩, hnone⟩

end RecordedAux

open RecordedAux

/-- Whatever a node has recorded as the outcome of a transaction is what is learned of it. -/
theorem reads_back (o : Outcome) : o.Recorded where
  written := ⟨o.writes_toTree, o.readable_toTree⟩
  read v := ofTree?_of_writes
  text v hwrites hreadable := by
    rw [Json.parseBytes_render_of_readable hreadable, Except.map, ofTree?_of_writes hwrites]
  told v hwrites hreadable hnoError status hstatus :=
    ⟨by simpa [Http.Response.isSuccess] using hstatus, v, Json.parseBytes_render_of_readable hreadable, hwrites,
      hnoError⟩
  answered e txid pause request hrequest σ answer hserves s := answered hrequest hserves s
  asked e txid pause tr r h htells := asked h htells
  awaited e txid total pause first left tr c h htells := awaited h htells

/-! ## A sample -/

/-- A failed transaction with an empty message and a transaction inside. -/
def sampleOutcome : Outcome :=
  { id := "ab", blockNumber := 7, contractResult := [""], result := some "FAILED", message := some "",
    internal := [{ hash := "cd" }] }

/-- The transaction inside with a member that its record does not have. -/
def sampleInside : Tree :=
  .table (("callValueInfo", .list [.table []]) :: InternalTransaction.record { hash := "cd" })

/-- The outcome with other members in front, one of them an error that is no text, and with its own in another order. -/
def sampleTold : Tree :=
  .table [("fee", .integer 345000), ("Error", .null), ("blockNumber", .integer 7), ("id", .text "ab"),
    ("blockTimeStamp", .integer 0),
    ("contractResult", .list [.text ""]), ("result", .text "FAILED"), ("resMessage", .text ""),
    ("internal_transactions", .list [sampleInside])]

/-- The sample reply writes the sample outcome. -/
theorem writes_sampleTold : sampleOutcome.Writes sampleTold := by
  refine ⟨[sampleInside], _, rfl, .cons ⟨_, rfl, ?_⟩ .nil, ?_⟩
  · exact .of_eq rfl
  · exact .swap _ _ _

/-- The sample reply can be read as JSON. -/
theorem readable_sampleTold : Json.Readable 127 sampleTold := by
  have hinside : Json.Readable 125 sampleInside := by
    refine .table (by decide) ?_
    simp only [InternalTransaction.record, List.forall_mem_cons]
    have hempty : Json.Readable 123 (.table []) := .table .nil (List.forall_mem_nil _)
    exact ⟨.list (List.forall_mem_singleton.mpr hempty), .text _ _, .text _ _, .text _ _, .text _ _, .bool _ _,
      .text _ _, List.forall_mem_nil _⟩
  refine .table (by decide) ?_
  simp only [List.forall_mem_cons]
  exact ⟨.integer _ (by decide) (by decide), .null _, .integer _ (by decide) (by decide), .text _ _,
    .integer _ (by decide) (by decide),
    .list (List.forall_mem_singleton.mpr (.text _ _)), .text _ _, .text _ _,
      .list (List.forall_mem_singleton.mpr hinside),
    List.forall_mem_nil _⟩

/-- No error is named in the sample, for a member of that name that is no text is none. -/
theorem not_error_sampleTold (message : String) : ¬sampleTold.Leads [.member "Error"] (.text message) := by
  intro h
  obtain ⟨child, hchild, hleads⟩ := Tree.leads_member_iff.mp h
  obtain rfl : Tree.null = child := Option.some.inj hchild
  nomatch Tree.leads_nil_iff.mp hleads

/-- A machine on which every request is answered with the sample. -/
def sampleOutside : Unit → (q : Outside) → q.Answer × Unit
  | _, .environment _ => (none, ())
  | _, .file _ => (.missing, ())
  | _, .exchange _ => (.ok ⟨200, Utf8.encode (Json.render sampleTold)⟩, ())
  | _, .pause _ => ((), ())

/-- A response with the sample tells the outcome, which is read from it, with the failure and the empty message. So a
node on the machine itself that has it on record is understood when it is asked. -/
theorem reads_back_sample : sampleOutcome.Tells ⟨200, Utf8.encode (Json.render sampleTold)⟩ ∧
    ofTree? sampleTold = some sampleOutcome ∧ sampleOutcome.isFailed = true ∧ sampleOutcome.message = some "" ∧
    (((loopback none 10000).ask (.outcome "ab" 5)).play sampleOutside ()).1 = .ok (some sampleOutcome) := by
  have hrecorded := reads_back sampleOutcome
  have htells := hrecorded.told _ writes_sampleTold readable_sampleTold not_error_sampleTold 200 (by decide)
  have hkey : ∀ k ∈ (none : Option String), k.toList.all Http.isHeaderChar = true := nofun
  have hrequest := request_loopback hkey 10000 (.outcome "ab" 5)
  refine ⟨htells, hrecorded.read _ writes_sampleTold, rfl, rfl, ?_⟩
  exact hrecorded.answered _ _ _ _ hrequest Unit sampleOutside (fun _ => ⟨_, rfl, htells⟩) ()

end Outcome

end CheckpointRelay
