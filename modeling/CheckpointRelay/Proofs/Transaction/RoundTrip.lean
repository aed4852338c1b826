import CheckpointRelay.Node.Api
import CheckpointRelay.Proofs.Json.Reading
import CheckpointRelay.Proofs.Node.Request
import CheckpointRelay.Proofs.Transaction.Encoding
import CheckpointRelay.Proofs.Transaction.Steps

/-!
# Nothing is lost in the encoding of a transaction

Whoever decodes the encoding of a transaction, of raw data or of a call has what was encoded, also behind the
hexadecimal digits and the JSON in which it travels (`encodings_read_back`). So one encoding stands for one value, and a
signature of an encoding for that value alone.
-/

namespace CheckpointRelay

open Wire

namespace Node

/-- The transaction that a node finds in the octets that are posted to it. -/
def postedTransaction? (octets : Bytes) : Option Transaction := do
  let body ← (Json.parseBytes octets).toOption
  let digits ← body.get? "transaction" >>= Tree.text?
  let encoding ← (Hex.decode digits).toOption
  (Transaction.decode encoding).toOption

/-- The posted body is read back as JSON. -/
theorem readsBack_body (t : Transaction) : Json.ReadsBack 127 (Query.broadcast t).body := by
  refine Json.readsBack_table (List.cons_ne_nil _ _) (by simp) ?_
  intro m hm
  cases List.mem_singleton.mp hm
  exact (Json.readsBack_text _ _).inPlace

/-- The transaction is found in its posted body. -/
theorem postedTransaction?_body {t : Transaction} (h : t.encode.length < Bytes.maxLength) :
    postedTransaction? (Utf8.encode (Json.render (Query.broadcast t).body)) = some t := by
  have hmember : ((Query.broadcast t).body.get? "transaction" >>= Tree.text?) = some (Hex.encode t.encode) := rfl
  unfold postedTransaction?
  rw [Json.parseBytes_render (readsBack_body t).inPlace]
  simp only [Except.toOption, Option.bind_eq_bind, Option.bind_some] at hmember ⊢
  rw [hmember]
  simp only [Option.bind_some, Hex.decode_encode, Transaction.decode_encode h]

end Node

/-- Transactions, raw data and calls decode from their encodings. A node finds in what is posted to it the transaction
that is to be broadcast, and the call in the first contract of a transaction is the one from which that contract was
made. -/
theorem encodings_read_back :
    (∀ t : Transaction, t.encode.length < Bytes.maxLength → Transaction.decode t.encode = .ok t ∧
      ∀ (e : Node.Endpoint) request, e.request (.broadcast t) = .ok request →
        Node.postedTransaction? (Utf8.encode (Json.render request.body)) = some t) ∧
    (∀ raw : RawTransaction, raw.encode.length < Bytes.maxLength → RawTransaction.decode raw.encode = .ok raw ∧
      Transaction.ofRawHex (Hex.encode raw.encode) = .ok { raw := some raw } ∧
      ∀ raw' : RawTransaction, raw'.encode = raw.encode → raw' = raw) ∧
    ∀ call : TriggerCall, call.encode.length < Bytes.maxLength → TriggerCall.decode call.encode = .ok call ∧
      ∀ (t : Transaction) raw later, t.raw = some raw → raw.contracts = call.toContract :: later →
        t.call = .ok call := by
  refine ⟨?_, ?_, ?_⟩
  · intro t h
    refine ⟨Transaction.decode_encode h, ?_⟩
    intro e request hrequest
    rw [Http.Request.make_body hrequest]
    exact Node.postedTransaction?_body h
  · intro raw h
    have hdecode := RawTransaction.decode_encode h
    refine ⟨hdecode, ?_, ?_⟩
    · have hraw : (RawTransaction.decode raw.encode).mapError Transaction.Error.rawEncoding = .ok raw :=
        Result.mapError_eq_ok.mpr hdecode
      have hoctets : (Hex.decode (Hex.encode raw.encode)).mapError Transaction.Error.rawDigits = .ok raw.encode :=
        Result.mapError_eq_ok.mpr (Hex.decode_encode raw.encode)
      rw [Transaction.ofRawHex, hoctets, Result.ok_bind, hraw]
      rfl
    · intro raw' hencode
      have hother := RawTransaction.decode_encode (hencode ▸ h : raw'.encode.length < Bytes.maxLength)
      rw [hencode, hdecode] at hother
      exact (Except.ok.inj hother).symm
  · intro call h
    have hdecode := TriggerCall.decode_encode h
    refine ⟨hdecode, ?_⟩
    intro t raw later hraw hcontracts
    refine Transaction.call_eq_ok.mpr ⟨raw, call.toContract, ⟨TriggerCall.typeUrl, call.encode⟩, later, ?_, hdecode⟩
    exact Transaction.callHolder_eq_ok.mpr ⟨hraw, hcontracts, rfl, rfl⟩

/-- Raw data with negative numbers, a contract without parameter, one with an empty parameter and one with a type in
other letters than those of ASCII. -/
def rawSample : RawTransaction :=
  { refBlockBytes := [0, 255], refBlockNumber := -1,
    contracts := [{ kind := -31, permission := 2 }, { parameter := some {} },
      { kind := 31, parameter := some { typeUrl := "τύπος", value := [1, 2] }, name := [9] }], feeLimit := 150000000 }

/-- A transaction with this raw data, an empty signature and a result. -/
def transactionSample : Transaction :=
  { raw := some rawSample, signatures := [[], [1, 2, 3]],
    results := [{}, { fee := -5, code := -1, contractCode := 1 }] }

/-- Both decode from their encodings, and a node on the machine itself finds the transaction in what is posted to it. -/
theorem encodings_read_back_sample :
    transactionSample.encode.length < Bytes.maxLength ∧
    Transaction.decode transactionSample.encode = .ok transactionSample ∧
      rawSample.encode.length < Bytes.maxLength ∧ RawTransaction.decode rawSample.encode = .ok rawSample ∧
      ∃ request, (Node.loopback none 10000).request (.broadcast transactionSample) = .ok request ∧
        Node.postedTransaction? (Utf8.encode (Json.render request.body)) = some transactionSample := by
  have ht : transactionSample.encode.length < Bytes.maxLength := by decide +kernel
  have hraw : rawSample.encode.length < Bytes.maxLength := by decide +kernel
  have hkey : ∀ k ∈ (none : Option String), k.toList.all Http.isHeaderChar = true := nofun
  have hrequest := Node.request_loopback hkey 10000 (.broadcast transactionSample)
  obtain ⟨hdecode, hposted⟩ := encodings_read_back.1 transactionSample ht
  exact ⟨ht, hdecode, hraw, (encodings_read_back.2.1 rawSample hraw).1, _, hrequest, hposted _ _ hrequest⟩

end CheckpointRelay
