import CheckpointRelay.Controller.Relay
import CheckpointRelay.Proofs.Abi.Reading
import CheckpointRelay.Proofs.Json.Values
import CheckpointRelay.Proofs.Node.Reply
import CheckpointRelay.Proofs.Node.Request
import CheckpointRelay.Proofs.Relay.Retry

/-!
# What the controller is said to hold

A read of the controller asks the node for what one call returns, and for nothing else (`ReadsWord.asks`). It gives a
value exactly if the reply has everything that it has to say (`TellsWord`), and then the value that the first word
writes: no part that is missing or of another kind has a default (`reads_exact`).
-/

namespace CheckpointRelay.Relayer

open Dialogue

/-- The value of a reply says that a call returned this word, and perhaps more behind it. -/
structure TellsWord (v : Tree) (w : Word) : Prop where
  noError : ∀ message, ¬v.Leads [.member "Error"] (.text message)
  carriedOut : v.Leads [.member "result", .member "result"] (.bool true)
  notReverted : ¬v.Leads [.member "transaction", .member "ret", .first, .member "ret"] (.text "FAILED")
  word : ∃ digits data, v.Leads [.member "constant_result", .first] (.text digits) ∧ Hex.Spells digits.toList data ∧
    32 ≤ data.length ∧ data.take 32 = w.bytes

/-- A reply tells a word when what the call returned begins with it. -/
theorem tellsWord_iff {v : Tree} {w : Word} :
    TellsWord v w ↔ ∃ data, Node.Returns v data ∧ Abi.wordOf data 0 = .ok w := by
  simp only [Abi.wordOf_zero_eq_ok_iff]
  constructor
  · rintro ⟨hnoError, hcarried, hreverted, digits, data, hdigits, hspells, hword⟩
    exact ⟨data, ⟨hnoError, hcarried, hreverted, .inl ⟨digits, hdigits, hspells⟩⟩, hword⟩
  · rintro ⟨data, ⟨hnoError, hcarried, hreverted, hdigits⟩, hlength, hword⟩
    rcases hdigits with ⟨digits, hdigits, hspells⟩ | ⟨-, rfl⟩
    · exact ⟨hnoError, hcarried, hreverted, digits, data, hdigits, hspells, hlength, hword⟩
    · nomatch hlength

/-- What is asked for a word, and when there is one: `written` is the word that writes a value. -/
structure ReadsWord {α : Type} (e : Node.Endpoint) (call : TriggerCall)
    (d : Dialogue Node.Query Node.Query.Answer (Except Error α)) (written : α → Word) : Prop where
  /-- The node is asked what the call returns, and nothing else. -/
  asks : ∀ tr result, Transcript d tr result → ∃ answer, tr = [⟨.constant call, answer⟩]
  /-- One request is sent, unless there can be none. -/
  sends : ∀ tr result, Transcript (e.connect d) tr result →
    (∃ refusal, e.request (.constant call) = .error refusal ∧ tr = []) ∨
      ∃ request answer, e.request (.constant call) = .ok request ∧ tr = [⟨.exchange request, answer⟩]
  /-- A value comes of a success whose value tells it, and of nothing else. -/
  gives : ∀ tr a, Transcript (e.connect d) tr (.ok a) ↔
    ∃ request response v, e.request (.constant call) = .ok request ∧ tr = [⟨.exchange request, .ok response⟩] ∧
      (200 ≤ response.status ∧ response.status < 300) ∧ Json.parseBytes response.body = .ok v ∧ TellsWord v (written a)

/-- A success with the text of a value that tells a word gives what the word writes. -/
theorem ReadsWord.gives_of_text {α : Type} {e : Node.Endpoint} {call : TriggerCall}
    {d : Dialogue Node.Query Node.Query.Answer (Except Error α)} {written : α → Word} (h : ReadsWord e call d written)
    {request : Http.Request} (hrequest : e.request (.constant call) = .ok request) {v : Tree}
    (hv : Json.Readable 127 v) {a : α} (htells : TellsWord v (written a)) :
    Transcript (e.connect d) [⟨.exchange request, .ok ⟨200, Utf8.encode (Json.render v)⟩⟩] (.ok a) := by
  have hstatus : 200 ≤ 200 ∧ 200 < 300 := by decide
  exact (h.gives _ a).mpr ⟨request, _, v, hrequest, rfl, hstatus, Json.parseBytes_render_of_readable hv, htells⟩

/-- The result of a read with the answer of the node. -/
def readResult {α : Type} (decode : Bytes → Except Abi.DecodeError α) : Except Report Bytes → Except Error α
  | .error cause => .error (.failure (.node cause))
  | .ok raw => (decode raw).mapError .read

section

variable {α : Type} {e : Node.Endpoint} {r : Relayer} {calldata : Bytes} {decode : Bytes → Except Abi.DecodeError α}

/-- A read is one question. -/
theorem throughNode_readController : throughNode (r.readController calldata decode) =
    .ask (.constant (r.controllerCall calldata)) fun answer => .done (readResult decode answer) := by
  refine congrArg (Dialogue.ask _) (funext fun answer => ?_)
  cases answer with
  | error cause => rfl
  | ok raw => rfl

/-- Reading the controller through a node asks one constant call and decodes its reply. -/
theorem connect_read : e.connect (throughNode (r.readController calldata decode)) =
    (e.ask (.constant (r.controllerCall calldata))).bind fun reply =>
      .done (readResult decode (reply.mapError Node.ReplyError.report)) := by
  rw [throughNode_readController]
  exact Dialogue.bind_assoc _ _ _

/-- A read gives a value exactly if the reply is read, and the value from what it says. -/
theorem readResult_eq_ok_iff {reply : Except Node.ReplyError Bytes} {a : α} :
    readResult decode (reply.mapError Node.ReplyError.report) = .ok a ↔
      ∃ raw, reply = .ok raw ∧ decode raw = .ok a := by
  cases reply with
  | error cause => exact ⟨nofun, nofun⟩
  | ok raw =>
    constructor
    · intro h
      exact ⟨raw, rfl, Result.mapError_eq_ok.mp h⟩
    · rintro ⟨_, hraw, h⟩
      obtain rfl := Except.ok.inj hraw
      exact Result.mapError_eq_ok.mpr h

/-- A success is a status from 200 to 299. -/
theorem isSuccess_iff {response : Http.Response} :
    response.isSuccess = true ↔ 200 ≤ response.status ∧ response.status < 300 := by
  simp [Http.Response.isSuccess]

/-- A read of a word does what it should if exactly the word that writes a value is decoded to it. -/
theorem readsWord (e : Node.Endpoint) (r : Relayer) (calldata : Bytes) {written : α → Word}
    (hdecode : ∀ data a, decode data = .ok a ↔ Abi.wordOf data 0 = .ok (written a)) :
    ReadsWord e (r.controllerCall calldata) (throughNode (r.readController calldata decode)) written where
  asks tr result h := by
    rw [throughNode_readController, transcript_ask_iff] at h
    obtain ⟨answer, rest, rfl, hdone⟩ := h
    obtain ⟨rfl, -⟩ := transcript_done_iff.mp hdone
    exact ⟨answer, rfl⟩
  sends tr result h := by
    rw [connect_read, transcript_bind_iff] at h
    obtain ⟨front, reply, back, rfl, hask, hdone⟩ := h
    obtain ⟨rfl, -⟩ := transcript_done_iff.mp hdone
    rw [List.append_nil]
    rcases (Node.transcript_ask_iff rfl).mp hask with
      ⟨refusal, hrequest, rfl, -⟩ | ⟨request, hrequest, ⟨fault, rfl, -⟩ | ⟨response, rfl, -⟩⟩
    · exact .inl ⟨refusal, hrequest, rfl⟩
    · exact .inr ⟨request, _, hrequest, rfl⟩
    · exact .inr ⟨request, _, hrequest, rfl⟩
  gives tr a := by
    rw [connect_read, transcript_bind_iff]
    constructor
    · rintro ⟨front, reply, back, rfl, hask, hdone⟩
      obtain ⟨rfl, hresult⟩ := transcript_done_iff.mp hdone
      obtain ⟨raw, rfl, hraw⟩ := readResult_eq_ok_iff.mp hresult.symm
      rw [List.append_nil]
      rcases (Node.transcript_ask_iff rfl).mp hask with
        ⟨_, -, -, hreply⟩ | ⟨request, hrequest, ⟨_, -, hreply⟩ | ⟨response, rfl, hreply⟩⟩
      · nomatch hreply
      · nomatch hreply
      · obtain ⟨hsuccess, v, hparse, hreturns⟩ := Node.readReply_eq_ok_iff.mp hreply.symm
        exact ⟨request, response, v, hrequest, rfl, isSuccess_iff.mp hsuccess, hparse,
          tellsWord_iff.mpr ⟨raw, hreturns, (hdecode raw a).mp hraw⟩⟩
    · rintro ⟨request, response, v, hrequest, rfl, hsuccess, hparse, htells⟩
      obtain ⟨raw, hreturns, hword⟩ := tellsWord_iff.mp htells
      have hreply : e.readReply (.constant (r.controllerCall calldata)) response = .ok raw :=
        Node.readReply_eq_ok_iff.mpr ⟨isSuccess_iff.mpr hsuccess, v, hparse, hreturns⟩
      refine ⟨[⟨.exchange request, .ok response⟩], .ok raw, [], (List.append_nil _).symm, ?_, ?_⟩
      · exact (Node.transcript_ask_iff rfl).mpr (.inr ⟨request, hrequest, .inr ⟨response, rfl, hreply.symm⟩⟩)
      · rw [transcript_done_iff]
        exact ⟨rfl, (readResult_eq_ok_iff.mpr ⟨raw, rfl, (hdecode raw a).mpr hword⟩).symm⟩

end

/-- The reads of the tip, of the amount pulled, of the rate of a token and of the USDT token give what a faultless reply
tells, and only that: the first word, as it is, as a number, or as an address behind zeros. -/
theorem reads_exact (e : Node.Endpoint) (r : Relayer) :
    ReadsWord e (r.controllerCall (readCall Signature.eventChainTip)) (throughNode r.eventChainTip) id ∧
    ReadsWord e (r.controllerCall (readCall Signature.pulledUsdt)) (throughNode r.pulledUsdt) Uint256.toWord ∧
    (∀ token, ReadsWord e (r.controllerCall (addressReadCall Signature.lpExchangeRateFor token))
      (throughNode (r.lpExchangeRateFor token)) Uint256.toWord) ∧
    ReadsWord e (r.controllerCall (readCall Signature.usdt)) (throughNode r.usdt) Abi.ofAddress := by
  refine ⟨?_, ?_, fun token => ?_, ?_⟩
  · exact readsWord e r _ fun data tip => Iff.rfl
  · exact readsWord e r _ fun data amount => Abi.uint256Of_eq_ok_iff
  · exact readsWord e r _ fun data rate => Abi.uint256Of_eq_ok_iff
  · exact readsWord e r _ fun data token => Abi.addressOf_eq_ok_iff

/-! ## A sample -/

/-- The tip that a node tells. -/
def toldTip : Tip := Octets.ofNat 32 5

/-- The value of its reply, with a member that is of no account. -/
def tipReply : Tree :=
  .table [("energy_used", .integer 700), ("constant_result", .list [.text (Hex.encode toldTip.bytes)]),
    ("result", .table [("result", .bool true)])]

/-- The sample reply can be read as JSON. -/
theorem readable_tipReply : Json.Readable 127 tipReply := by
  refine .table (by decide) ?_
  simp only [List.forall_mem_cons]
  exact ⟨.integer _ (by decide) (by decide), .list (List.forall_mem_singleton.mpr (.text _ _)),
    .table (by decide) (List.forall_mem_singleton.mpr (.bool _ _)), List.forall_mem_nil _⟩

/-- The sample reply tells the sample tip. -/
theorem tellsWord_tipReply : TellsWord tipReply toldTip := by
  refine ⟨?_, ?_, ?_, Hex.encode toldTip.bytes, toldTip.bytes, ?_, ?_, ?_, ?_⟩
  · intro message h
    obtain ⟨child, hchild, -⟩ := Tree.leads_member_iff.mp h
    nomatch hchild
  · exact .member rfl (.member rfl (.here _))
  · intro h
    obtain ⟨child, hchild, -⟩ := Tree.leads_member_iff.mp h
    nomatch hchild
  · exact .member rfl (.first (.here _))
  · rw [Hex.encode, String.toList_ofList]
    exact Hex.spells_encodeChars _
  · rw [toldTip.length_eq]
  · exact List.take_of_length_le (by rw [toldTip.length_eq])

/-- A node on the machine itself is asked for the tip, and the one that it tells is read. -/
theorem reads_exact_sample : ∃ request,
    (Node.loopback none 10000).request (.constant (sampleRelayer.controllerCall (readCall Signature.eventChainTip))) =
      .ok request ∧
    Transcript ((Node.loopback none 10000).connect (throughNode sampleRelayer.eventChainTip))
      [⟨.exchange request, .ok ⟨200, Utf8.encode (Json.render tipReply)⟩⟩] (.ok toldTip) := by
  have hkey : ∀ k ∈ (none : Option String), k.toList.all Http.isHeaderChar = true := nofun
  have hrequest := Node.request_loopback hkey 10000
    (.constant (sampleRelayer.controllerCall (readCall Signature.eventChainTip)))
  refine ⟨_, hrequest, ?_⟩
  exact (reads_exact (Node.loopback none 10000) sampleRelayer).1.gives_of_text hrequest readable_tipReply
    tellsWord_tipReply

end CheckpointRelay.Relayer
