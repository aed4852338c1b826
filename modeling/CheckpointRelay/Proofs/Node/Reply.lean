import CheckpointRelay.Node.Api
import CheckpointRelay.Proofs.Dialogue.Transcript
import CheckpointRelay.Proofs.Text.Hex

/-!
# What a reply to a call has to say

`Leads` says where steps lead in a value: to members by name, and to the first item of a list; there is no default for
what is not there. `Returns` says with it when a reply to a call counts as its answer, and replies are read so and not
otherwise (`readReply_eq_ok_iff`). For a question there is one exchange at most, with the request that puts it
(`transcript_ask_iff`, `readReply_of_transcript`).
-/

namespace CheckpointRelay

/-! ## Places in a value -/

namespace Tree

/-- A step into a value. -/
inductive Step
  /-- To the member of a table with a name. -/
  | member (name : String)
  /-- To the first item of a list. -/
  | first

/-- Steps lead from a value to one in it. -/
inductive Leads : Tree → List Step → Tree → Prop
  | here (t : Tree) : Leads t [] t
  | member {members : List (String × Tree)} {name : String} {child t : Tree} {steps : List Step}
      (h : members.lookup name = some child) (hrest : Leads child steps t) :
      Leads (.table members) (.member name :: steps) t
  | first {item t : Tree} {rest : List Tree} {steps : List Step} (hrest : Leads item steps t) :
    Leads (.list (item :: rest)) (.first :: steps) t

variable {t u : Tree} {steps : List Step}

/-- No steps lead from a tree to itself. -/
@[simp] theorem leads_nil_iff : Leads t [] u ↔ t = u := by
  constructor
  · rintro ⟨⟩
    rfl
  · rintro rfl
    exact .here t

/-- A step to a member leads through the member of that name. -/
@[simp] theorem leads_member_iff {name : String} :
    Leads t (.member name :: steps) u ↔ ∃ child, t.get? name = some child ∧ Leads child steps u := by
  constructor
  · rintro ⟨⟩
    exact ⟨_, ‹_›, ‹_›⟩
  · rintro ⟨child, hchild, hrest⟩
    cases t with
    | table members => exact .member hchild hrest
    | _ => nomatch hchild

/-- A step to the first item leads through it. -/
@[simp] theorem leads_first_iff :
    Leads t (.first :: steps) u ↔ ∃ item, Node.first? t = some item ∧ Leads item steps u := by
  constructor
  · rintro ⟨⟩
    exact ⟨_, rfl, ‹_›⟩
  · rintro ⟨item, hitem, hrest⟩
    cases t with
    | list items =>
      cases items with
      | nil => nomatch hitem
      | cons first rest =>
        obtain rfl := Option.some.inj hitem
        exact .first hrest
    | _ => nomatch hitem

/-- A tree is read as a text when it is one. -/
@[simp] theorem text?_eq_some_iff {s : String} : t.text? = some s ↔ t = .text s := by
  cases t <;> simp [text?]

/-- A tree is read as a truth value when it is one. -/
@[simp] theorem bool?_eq_some_iff {b : Bool} : t.bool? = some b ↔ t = .bool b := by
  cases t <;> simp [bool?]

end Tree

namespace Node

open Dialogue

/-! ## Replies to a call -/

/-- The value of a reply gives what a call returned. -/
structure Returns (v : Tree) (data : Bytes) : Prop where
  noError : ∀ message, ¬v.Leads [.member "Error"] (.text message)
  carriedOut : v.Leads [.member "result", .member "result"] (.bool true)
  notReverted : ¬v.Leads [.member "transaction", .member "ret", .first, .member "ret"] (.text "FAILED")
  /-- The digits of what was returned stand first in a list; without any, nothing was returned. -/
  digits : (∃ digits, v.Leads [.member "constant_result", .first] (.text digits) ∧ Hex.Spells digits.toList data) ∨
    (∀ digits, ¬v.Leads [.member "constant_result", .first] (.text digits)) ∧ data = []

/-- A call was carried out when the reply's `result.result` is true. -/
theorem isCarriedOut_iff {v : Tree} :
    isCarriedOut v = true ↔ v.Leads [.member "result", .member "result"] (.bool true) := by
  unfold isCarriedOut
  rw [Option.getD_eq_iff]
  simp [Option.bind_eq_some_iff]

/-- A call reverted when the first `ret` of the reply's transaction is FAILED. -/
theorem isReverted_iff {v : Tree} :
    isReverted v = true ↔ v.Leads [.member "transaction", .member "ret", .first, .member "ret"] (.text "FAILED") := by
  unfold isReverted memberText?
  simp only [Option.bind_eq_bind, Option.bind_assoc, decide_eq_true_eq]
  simp [Option.bind_eq_some_iff]

/-- The digits of a result are the text at the first `constant_result`. -/
theorem digits_eq_some_iff {v : Tree} {digits : String} :
    (v.get? "constant_result" >>= first?) >>= Tree.text? = some digits ↔
    v.Leads [.member "constant_result", .first] (.text digits) := by
  simp only [Option.bind_eq_bind, Option.bind_assoc]
  simp [Option.bind_eq_some_iff]

/-- A reply to a call passes the check exactly when the call was carried out. -/
theorem checkCall_eq_ok_iff {method : String} {v : Tree} {u : Unit} :
    checkCall method v = .ok u ↔ v.Leads [.member "result", .member "result"] (.bool true) := by
  rw [← isCarriedOut_iff]
  unfold checkCall
  split
  next hcarried => simp [hcarried]
  next hcarried => simp [hcarried]

/-- An answer is returned unless the call reverted. -/
theorem unless_reverted_eq_ok_iff {reverted : Bool} {e : ReplyError} {data data' : Bytes} :
    (if reverted = true then do
        throw e
        pure data
      else pure data : Except ReplyError Bytes) = .ok data' ↔ ¬reverted = true ∧ data = data' := by
  cases reverted with
  | false => simp [Result.pure_eq_ok]
  | true => exact ⟨nofun, fun h => absurd rfl h.1⟩

/-- What a call returned: the octets spelled by the first `constant_result`, or none when there is no such text. -/
theorem readReturned_eq_ok_iff {call : TriggerCall} {v : Tree} {data : Bytes} : readReturned call v = .ok data ↔
    v.Leads [.member "result", .member "result"] (.bool true) ∧
    ¬v.Leads [.member "transaction", .member "ret", .first, .member "ret"] (.text "FAILED") ∧
    ((∃ digits, v.Leads [.member "constant_result", .first] (.text digits) ∧ Hex.Spells digits.toList data) ∨
      (∀ digits, ¬v.Leads [.member "constant_result", .first] (.text digits)) ∧ data = []) := by
  unfold readReturned
  simp only [Result.bind_eq_ok, checkCall_eq_ok_iff, ← isReverted_iff, ← digits_eq_some_iff]
  cases (v.get? "constant_result" >>= first?) >>= Tree.text? with
  | none =>
    simp only [Result.bind_eq_ok, Result.pure_eq_ok, unless_reverted_eq_ok_iff]
    constructor
    · rintro ⟨-, hcarried, _, rfl, hreverted, rfl⟩
      exact ⟨hcarried, hreverted, .inr ⟨nofun, rfl⟩⟩
    · rintro ⟨hcarried, hreverted, ⟨_, hdigits, -⟩ | ⟨-, rfl⟩⟩
      · nomatch hdigits
      · exact ⟨(), hcarried, [], rfl, hreverted, rfl⟩
  | some digits =>
    have hdecode (b : Bytes) : Hex.decode digits = .ok b ↔ Hex.Spells digits.toList b := Hex.decodeChars_eq_ok_iff
    simp only [Result.bind_eq_ok, Result.mapError_eq_ok, hdecode, unless_reverted_eq_ok_iff]
    constructor
    · rintro ⟨-, hcarried, _, hspells, hreverted, rfl⟩
      exact ⟨hcarried, hreverted, .inl ⟨digits, rfl, hspells⟩⟩
    · rintro ⟨hcarried, hreverted, ⟨_, hdigits, hspells⟩ | ⟨hnone, -⟩⟩
      · obtain rfl := Option.some.inj hdigits
        exact ⟨(), hcarried, data, hspells, hreverted, rfl⟩
      · exact absurd rfl (hnone digits)

/-- A response carries a value if it is a success, and the value names no error. -/
theorem readResponse_eq_ok_iff {url : String} {response : Http.Response} {v : Tree} :
    readResponse url response = .ok v ↔
    response.isSuccess = true ∧ Json.parseBytes response.body = .ok v ∧
    ∀ message, ¬v.Leads [.member "Error"] (.text message) := by
  unfold readResponse
  dsimp only
  cases hsuccess : response.isSuccess with
  | false => exact ⟨nofun, nofun⟩
  | true =>
    simp only [Bool.not_true, Bool.false_eq_true, if_false, Result.bind_eq_ok, Result.mapError_eq_ok, true_and]
    constructor
    · rintro ⟨w, hparse, h⟩
      split at h
      next => nomatch h
      next hother =>
        obtain rfl := Result.pure_eq_ok.mp h
        refine ⟨hparse, fun message herror => ?_⟩
        exact hother message (by simpa using herror)
    · rintro ⟨hparse, hnoError⟩
      refine ⟨v, hparse, ?_⟩
      split
      next message hmember => exact absurd (by simp [hmember]) (hnoError message)
      next => rfl

/-- A response counts as the answer to a call exactly if its value says what the call returned. -/
theorem readReply_eq_ok_iff {e : Endpoint} {call : TriggerCall} {response : Http.Response} {data : Bytes} :
    e.readReply (.constant call) response = .ok data ↔
      response.isSuccess = true ∧ ∃ v, Json.parseBytes response.body = .ok v ∧ Returns v data := by
  unfold Endpoint.readReply
  simp only [Result.bind_eq_ok, readResponse_eq_ok_iff]
  constructor
  · rintro ⟨v, ⟨hsuccess, hparse, hnoError⟩, hread⟩
    obtain ⟨hcarried, hreverted, hdigits⟩ := readReturned_eq_ok_iff.mp hread
    exact ⟨hsuccess, v, hparse, hnoError, hcarried, hreverted, hdigits⟩
  · rintro ⟨hsuccess, v, hparse, h⟩
    exact ⟨v, ⟨hsuccess, hparse, h.noError⟩, readReturned_eq_ok_iff.mpr ⟨h.carriedOut, h.notReverted, h.digits⟩⟩

/-! ## The exchange for a question -/

/-- What is asked for a question after its pause. -/
def Endpoint.put (e : Endpoint) (q : Query) : OutsideM (Except ReplyError q.Content) :=
  match e.request q with
  | .error refusal => .done (.error (.unsendable (e.url q) refusal))
  | .ok request => (Outside.send request).bind fun answer =>
    match answer with
    | .error fault => .done (.error (.unanswered (e.url q) request fault))
    | .ok response => .done (e.readReply q response)

/-- A query waits, then puts its request. -/
theorem ask_eq (e : Endpoint) (q : Query) : e.ask q = (Outside.sleep q.pauseBefore).bind fun _ => e.put q := rfl

/-- A question is put in one request, if there can be one, and the response to it is what is read. -/
theorem transcript_put_iff {e : Endpoint} {q : Query} {tr : List (Dialogue.Exchange Outside Outside.Answer)}
    {r : Except ReplyError q.Content} :
    Transcript (e.put q) tr r ↔
      (∃ refusal, e.request q = .error refusal ∧ tr = [] ∧ r = .error (.unsendable (e.url q) refusal)) ∨
      ∃ request, e.request q = .ok request ∧
        ((∃ fault, tr = [⟨.exchange request, .error fault⟩] ∧ r = .error (.unanswered (e.url q) request fault)) ∨
          ∃ response, tr = [⟨.exchange request, .ok response⟩] ∧ r = e.readReply q response) := by
  unfold Endpoint.put
  cases e.request q with
  | error refusal => simp
  | ok request =>
    constructor
    · intro h
      obtain ⟨front, answer, back, rfl, hsend, hdone⟩ := transcript_bind_iff.mp h
      obtain rfl := transcript_question_iff.mp hsend
      cases answer with
      | error fault =>
        obtain ⟨rfl, rfl⟩ := transcript_done_iff.mp hdone
        exact .inr ⟨request, rfl, .inl ⟨fault, rfl, rfl⟩⟩
      | ok response =>
        obtain ⟨rfl, rfl⟩ := transcript_done_iff.mp hdone
        exact .inr ⟨request, rfl, .inr ⟨response, rfl, rfl⟩⟩
    · rintro (⟨_, hrefused, -⟩ | ⟨_, hrequest, ⟨fault, rfl, rfl⟩ | ⟨response, rfl, rfl⟩⟩)
      · cases hrefused
      · obtain rfl := Except.ok.inj hrequest
        exact .ask (.done _)
      · obtain rfl := Except.ok.inj hrequest
        exact .ask (.done _)

/-- The same for a question that needs no pause. -/
theorem transcript_ask_iff {e : Endpoint} {q : Query} (hpause : q.pauseBefore = 0)
    {tr : List (Dialogue.Exchange Outside Outside.Answer)} {r : Except ReplyError q.Content} :
    Transcript (e.ask q) tr r ↔
      (∃ refusal, e.request q = .error refusal ∧ tr = [] ∧ r = .error (.unsendable (e.url q) refusal)) ∨
      ∃ request, e.request q = .ok request ∧
        ((∃ fault, tr = [⟨.exchange request, .error fault⟩] ∧ r = .error (.unanswered (e.url q) request fault)) ∨
          ∃ response, tr = [⟨.exchange request, .ok response⟩] ∧ r = e.readReply q response) := by
  rw [ask_eq, Outside.sleep, if_pos hpause, done_bind]
  exact transcript_put_iff

/-- The response is what is answered to some request. -/
def Responds (response : Http.Response) (tr : List (Dialogue.Exchange Outside Outside.Answer)) : Prop :=
  ∃ request, (⟨.exchange request, .ok response⟩ : Dialogue.Exchange Outside Outside.Answer) ∈ tr

/-- Waiting brings no response. -/
theorem not_responds_sleep {milliseconds : Nat} {tr : List (Dialogue.Exchange Outside Outside.Answer)}
    (h : Transcript (Outside.sleep milliseconds) tr ()) (response : Http.Response) : ¬Responds response tr := by
  rintro ⟨request, hmem⟩
  unfold Outside.sleep at h
  split at h
  · obtain ⟨rfl, -⟩ := transcript_done_iff.mp h
    nomatch hmem
  · obtain rfl := transcript_question_iff.mp h
    nomatch List.mem_singleton.mp hmem

/-- Nothing responds before a question is put. -/
theorem exists_put_of_ask {e : Endpoint} {q : Query} {tr : List (Dialogue.Exchange Outside Outside.Answer)}
    {r : Except ReplyError q.Content} (h : Transcript (e.ask q) tr r) :
    ∃ front back, tr = front ++ back ∧ (∀ response, ¬Responds response front) ∧ Transcript (e.put q) back r := by
  rw [ask_eq] at h
  obtain ⟨front, ⟨⟩, back, htr, hsleep, hput⟩ := transcript_bind_iff.mp h
  exact ⟨front, back, htr, not_responds_sleep hsleep, hput⟩

/-- If there is a response to a question, it is what is read, and otherwise the question has no answer. -/
theorem readReply_of_transcript {e : Endpoint} {q : Query} {tr : List (Dialogue.Exchange Outside Outside.Answer)}
    {r : Except ReplyError q.Content} (h : Transcript (e.ask q) tr r) :
    (∃ cause, r = .error cause ∧ ∀ response, ¬Responds response tr) ∨
      ∃ response, Responds response tr ∧ r = e.readReply q response := by
  obtain ⟨front, back, rfl, hfront, hput⟩ := exists_put_of_ask h
  rcases transcript_put_iff.mp hput with ⟨refusal, -, rfl, rfl⟩ | ⟨request, -, ⟨fault, rfl, rfl⟩ | ⟨response, rfl, rfl⟩⟩
  · rw [List.append_nil]
    exact .inl ⟨_, rfl, hfront⟩
  · refine .inl ⟨_, rfl, fun response hresponds => ?_⟩
    obtain ⟨request', hmem⟩ := hresponds
    rcases List.mem_append.mp hmem with hmem | hmem
    · exact hfront response ⟨request', hmem⟩
    · nomatch List.mem_singleton.mp hmem
  · exact .inr ⟨response, ⟨request, List.mem_append_right _ (List.mem_singleton_self _)⟩, rfl⟩

end Node

end CheckpointRelay
