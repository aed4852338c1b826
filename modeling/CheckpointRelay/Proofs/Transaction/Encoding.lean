import CheckpointRelay.Proofs.Bytes
import CheckpointRelay.Proofs.Wire.Reading
import CheckpointRelay.Transaction.Basic

/-!
# Encodings of transactions read back

Calls, raw data and transactions decode from their own encodings, unless these are longer than any byte string can be.
Each message takes in its fields one after the other, and a field with a nested message needs one level of depth more
than that message. The raw data of a transaction stands in the encoding of the transaction as its first field, octet by
octet as it is signed.
-/

namespace CheckpointRelay

open Wire

namespace TriggerCall

/-- A call decodes from its encoding when its byte strings have lengths of sixty-four bits. -/
theorem decode_encode_of_lengths {c : TriggerCall} (howner : c.owner.length < UInt64.size)
    (hcontract : c.contract.length < UInt64.size) (hdata : c.data.length < UInt64.size) : decode c.encode = .ok c := by
  have h1 : Absorbs take 100 (bytesField 1 c.owner) {} { owner := c.owner } :=
    absorbs_bytesField (fun b =>
      { c with owner := b, contract := [], callValue := 0, data := [], tokenValue := 0, tokenId := 0 })
      (by decide) howner (fun h => by rw [h]) fun _ => rfl
  have h2 : Absorbs take 100 (bytesField 2 c.contract) { owner := c.owner }
      { owner := c.owner, contract := c.contract } :=
    absorbs_bytesField (fun b => { c with contract := b, callValue := 0, data := [], tokenValue := 0, tokenId := 0 })
      (by decide) hcontract (fun h => by rw [h]) fun _ => rfl
  have h3 : Absorbs take 100 (int64Field 3 c.callValue) { owner := c.owner, contract := c.contract }
      { c with data := [], tokenValue := 0, tokenId := 0 } :=
    absorbs_int64Field (fun n => { c with callValue := n, data := [], tokenValue := 0, tokenId := 0 }) (by decide)
      (fun h => by rw [h]) fun _ => rfl
  have h4 : Absorbs take 100 (bytesField 4 c.data) { c with data := [], tokenValue := 0, tokenId := 0 }
      { c with tokenValue := 0, tokenId := 0 } :=
    absorbs_bytesField (fun b => { c with data := b, tokenValue := 0, tokenId := 0 }) (by decide) hdata
      (fun h => by rw [h]) fun _ => rfl
  have h5 : Absorbs take 100 (int64Field 5 c.tokenValue) { c with tokenValue := 0, tokenId := 0 }
      { c with tokenId := 0 } :=
    absorbs_int64Field (fun n => { c with tokenValue := n, tokenId := 0 }) (by decide) (fun h => by rw [h]) fun _ => rfl
  have h6 : Absorbs take 100 (int64Field 6 c.tokenId) { c with tokenId := 0 } c :=
    absorbs_int64Field (fun n => { c with tokenId := n }) (by decide) (fun h => by rw [h]) fun _ => rfl
  exact decode_of_absorbs (((((h1.append h2).append h3).append h4).append h5).append h6)

/-- A call decodes from its encoding. -/
theorem decode_encode {c : TriggerCall} (h : c.encode.length < Bytes.maxLength) : decode c.encode = .ok c := by
  have howner := length_le_bytesField 1 c.owner
  have hcontract := length_le_bytesField 2 c.contract
  have hdata := length_le_bytesField 4 c.data
  simp only [encode, List.length_append] at h
  exact decode_encode_of_lengths (Bytes.lt_size_of_lt_maxLength (by omega)) (Bytes.lt_size_of_lt_maxLength (by omega))
    (Bytes.lt_size_of_lt_maxLength (by omega))

/-- A call's data is no longer than the encoded call. -/
theorem length_le_encode (c : TriggerCall) : c.data.length ≤ c.encode.length := by
  have := length_le_bytesField 4 c.data
  simp only [encode, List.length_append]
  omega

end TriggerCall

/-! ## What is inside is no longer than the whole -/

/-- A parameter's octets are no longer than the encoded parameter. -/
theorem Parameter.length_le_encode (p : Parameter) : p.value.length ≤ p.encode.length := by
  have := length_le_bytesField 2 p.value
  simp only [encode, List.length_append]
  omega

/-- An encoded parameter is no longer than the encoded contract. -/
theorem Contract.length_le_encode {c : Contract} {p : Parameter} (h : c.parameter = some p) :
    p.encode.length ≤ c.encode.length := by
  simp only [encode, h, Option.map_some, optionalField, delimitedField, List.length_append]
  omega

/-- An encoded contract is no longer than the encoded raw transaction. -/
theorem RawTransaction.length_le_encode {r : RawTransaction} {c : Contract} (h : c ∈ r.contracts) :
    c.encode.length ≤ r.encode.length := by
  have := length_le_repeatedField 11 (List.mem_map_of_mem (f := Contract.encode) h)
  simp only [encode, List.length_append]
  omega

namespace Transaction

/-- An encoded raw transaction is no longer than the encoded transaction. -/
theorem length_le_encode {t : Transaction} {raw : RawTransaction} (h : t.raw = some raw) :
    raw.encode.length ≤ t.encode.length := by
  simp only [encode, h, Option.map_some, optionalField, delimitedField, List.length_append]
  omega

/-- A signature is no longer than the encoded transaction. -/
theorem length_signature_le_encode {t : Transaction} {signature : Bytes} (h : signature ∈ t.signatures) :
    signature.length ≤ t.encode.length := by
  have := length_le_repeatedField 2 h
  simp only [encode, List.length_append]
  omega

/-- An encoded result is no longer than the encoded transaction. -/
theorem length_result_le_encode {t : Transaction} {result : TransactionResult} (h : result ∈ t.results) :
    result.encode.length ≤ t.encode.length := by
  have := length_le_repeatedField 5 (List.mem_map_of_mem (f := TransactionResult.encode) h)
  simp only [encode, List.length_append]
  omega

end Transaction

/-! ## Messages that nest -/

/-- A parameter takes in its own encoding. -/
theorem Parameter.absorbs {depth : Nat} {p : Parameter} (h : p.encode.length < Bytes.maxLength) :
    Absorbs take depth p.encode {} p := by
  have hurl := length_le_bytesField 1 (Utf8.encode p.typeUrl)
  have hvalue := p.length_le_encode
  have hfields := h
  simp only [encode, textField, List.length_append] at hfields
  have h1 : Absorbs take depth (textField 1 p.typeUrl) {} { typeUrl := p.typeUrl } :=
    absorbs_textField (fun s => ({ typeUrl := s } : Parameter)) (by decide) (Bytes.lt_size_of_lt_maxLength (by omega))
      (fun h => by rw [h]) fun _ => rfl
  have h2 : Absorbs take depth (bytesField 2 p.value) { typeUrl := p.typeUrl } p :=
    absorbs_bytesField (fun b => { p with value := b }) (by decide) (Bytes.lt_size_of_lt_maxLength (by omega))
      (fun h => by rw [h]) fun _ => rfl
  exact h1.append h2

/-- A contract takes in its own encoding. -/
theorem Contract.absorbs {depth : Nat} {c : Contract} (h : c.encode.length < Bytes.maxLength) :
    Absorbs take (depth + 1) c.encode {} c := by
  have hprovider := length_le_bytesField 3 c.provider
  have hname := length_le_bytesField 4 c.name
  have hfields := h
  simp only [encode, List.length_append] at hfields
  have h1 : Absorbs take (depth + 1) (int32Field 1 c.kind) {} { kind := c.kind } :=
    absorbs_int32Field (fun n => ({ kind := n } : Contract)) (by decide) (fun h => by rw [h]) fun _ => rfl
  have h2 : Absorbs take (depth + 1) (optionalField 2 (c.parameter.map Parameter.encode)) { kind := c.kind }
      { kind := c.kind, parameter := c.parameter } := by
    cases hp : c.parameter with
    | none => exact .nil _
    | some p =>
      have hparameter := Nat.lt_of_le_of_lt (Contract.length_le_encode hp) h
      exact absorbs_nestedField (fun p => ({ kind := c.kind, parameter := some p } : Contract)) (by decide)
        (Bytes.lt_size_of_lt_maxLength hparameter) (Parameter.absorbs hparameter) fun _ => rfl
  have h3 : Absorbs take (depth + 1) (bytesField 3 c.provider) { kind := c.kind, parameter := c.parameter }
      { c with name := [], permission := 0 } :=
    absorbs_bytesField (fun b => { c with provider := b, name := [], permission := 0 }) (by decide)
      (Bytes.lt_size_of_lt_maxLength (by omega)) (fun h => by rw [h]) fun _ => rfl
  have h4 : Absorbs take (depth + 1) (bytesField 4 c.name) { c with name := [], permission := 0 }
      { c with permission := 0 } :=
    absorbs_bytesField (fun b => { c with name := b, permission := 0 }) (by decide)
      (Bytes.lt_size_of_lt_maxLength (by omega)) (fun h => by rw [h]) fun _ => rfl
  have h5 : Absorbs take (depth + 1) (int32Field 5 c.permission) { c with permission := 0 } c :=
    absorbs_int32Field (fun n => { c with permission := n }) (by decide) (fun h => by rw [h]) fun _ => rfl
  exact (((h1.append h2).append h3).append h4).append h5

/-- A result takes in its own encoding. -/
theorem TransactionResult.absorbs {depth : Nat} (r : TransactionResult) : Absorbs take depth r.encode {} r := by
  have h1 : Absorbs take depth (int64Field 1 r.fee) {} { fee := r.fee } :=
    absorbs_int64Field (fun n => ({ fee := n } : TransactionResult)) (by decide) (fun h => by rw [h]) fun _ => rfl
  have h2 : Absorbs take depth (int32Field 2 r.code) { fee := r.fee } { r with contractCode := 0 } :=
    absorbs_int32Field (fun n => { r with code := n, contractCode := 0 }) (by decide) (fun h => by rw [h]) fun _ => rfl
  have h3 : Absorbs take depth (int32Field 3 r.contractCode) { r with contractCode := 0 } r :=
    absorbs_int32Field (fun n => { r with contractCode := n }) (by decide) (fun h => by rw [h]) fun _ => rfl
  exact (h1.append h2).append h3

namespace RawTransaction

/-- Raw data takes in its own encoding. -/
theorem absorbs {depth : Nat} {r : RawTransaction} (h : r.encode.length < Bytes.maxLength) :
    Absorbs take (depth + 2) r.encode {} r := by
  have hbytes := length_le_bytesField 1 r.refBlockBytes
  have hhash := length_le_bytesField 4 r.refBlockHash
  have hdata := length_le_bytesField 10 r.data
  have hscripts := length_le_bytesField 12 r.scripts
  have hfields := h
  simp only [encode, List.length_append] at hfields
  -- in the order of the encoding: each field is taken into a message whose later fields still have their defaults
  -- the same for the envelope; a repeated field is taken in one item at a time, behind the items in front of it
  have h1 : Absorbs take (depth + 2) (bytesField 1 r.refBlockBytes) {} { refBlockBytes := r.refBlockBytes } :=
    absorbs_bytesField (fun b => ({ refBlockBytes := b } : RawTransaction)) (by decide)
      (Bytes.lt_size_of_lt_maxLength (by omega)) (fun h => by rw [h]) fun _ => rfl
  have h3 : Absorbs take (depth + 2) (int64Field 3 r.refBlockNumber) { refBlockBytes := r.refBlockBytes }
      { refBlockBytes := r.refBlockBytes, refBlockNumber := r.refBlockNumber } :=
    absorbs_int64Field (fun n => ({ refBlockBytes := r.refBlockBytes, refBlockNumber := n } : RawTransaction))
      (by decide) (fun h => by rw [h]) fun _ => rfl
  have h4 : Absorbs take (depth + 2) (bytesField 4 r.refBlockHash)
      { refBlockBytes := r.refBlockBytes, refBlockNumber := r.refBlockNumber }
      { r with expiration := 0, data := [], contracts := [], scripts := [], timestamp := 0, feeLimit := 0 } :=
    absorbs_bytesField
      (fun b =>
        { r with
          refBlockHash := b, expiration := 0, data := [], contracts := [], scripts := [], timestamp := 0,
          feeLimit := 0 })
      (by decide) (Bytes.lt_size_of_lt_maxLength (by omega)) (fun h => by rw [h]) fun _ => rfl
  have h8 : Absorbs take (depth + 2) (int64Field 8 r.expiration)
      { r with expiration := 0, data := [], contracts := [], scripts := [], timestamp := 0, feeLimit := 0 }
      { r with data := [], contracts := [], scripts := [], timestamp := 0, feeLimit := 0 } :=
    absorbs_int64Field (fun n =>
      { r with expiration := n, data := [], contracts := [], scripts := [], timestamp := 0, feeLimit := 0 })
      (by decide) (fun h => by rw [h]) fun _ => rfl
  have h10 : Absorbs take (depth + 2) (bytesField 10 r.data)
      { r with data := [], contracts := [], scripts := [], timestamp := 0, feeLimit := 0 }
      { r with contracts := [], scripts := [], timestamp := 0, feeLimit := 0 } :=
    absorbs_bytesField (fun b => { r with data := b, contracts := [], scripts := [], timestamp := 0, feeLimit := 0 })
      (by decide) (Bytes.lt_size_of_lt_maxLength (by omega)) (fun h => by rw [h]) fun _ => rfl
  have h11 : Absorbs take (depth + 2) (repeatedField 11 (r.contracts.map Contract.encode))
      { r with contracts := [], scripts := [], timestamp := 0, feeLimit := 0 }
        { r with scripts := [], timestamp := 0, feeLimit := 0 } := by
    refine absorbs_repeatedField
      (fun cs => { r with contracts := cs, scripts := [], timestamp := 0, feeLimit := 0 }) r.contracts [] ?_
    intro front c hc
    have hcontract := Nat.lt_of_le_of_lt (length_le_encode hc) h
    have hitem : Absorbs take (depth + 2) (delimitedField 11 c.encode)
        { r with contracts := front, scripts := [], timestamp := 0, feeLimit := 0 }
        { r with contracts := front ++ [c], scripts := [], timestamp := 0, feeLimit := 0 } :=
      absorbs_nestedField (fun c => { r with contracts := front ++ [c], scripts := [], timestamp := 0, feeLimit := 0 })
        (by decide) (Bytes.lt_size_of_lt_maxLength hcontract) (Contract.absorbs hcontract) fun _ => rfl
    exact hitem
  have h12 : Absorbs take (depth + 2) (bytesField 12 r.scripts) { r with scripts := [], timestamp := 0, feeLimit := 0 }
      { r with timestamp := 0, feeLimit := 0 } :=
    absorbs_bytesField (fun b => { r with scripts := b, timestamp := 0, feeLimit := 0 }) (by decide)
      (Bytes.lt_size_of_lt_maxLength (by omega)) (fun h => by rw [h]) fun _ => rfl
  have h14 : Absorbs take (depth + 2) (int64Field 14 r.timestamp) { r with timestamp := 0, feeLimit := 0 }
      { r with feeLimit := 0 } :=
    absorbs_int64Field (fun n => { r with timestamp := n, feeLimit := 0 }) (by decide) (fun h => by rw [h]) fun _ => rfl
  have h18 : Absorbs take (depth + 2) (int64Field 18 r.feeLimit) { r with feeLimit := 0 } r :=
    absorbs_int64Field (fun n => { r with feeLimit := n }) (by decide) (fun h => by rw [h]) fun _ => rfl
  exact (((((((h1.append h3).append h4).append h8).append h10).append h11).append h12).append h14).append h18

/-- Raw data decodes from its encoding. -/
theorem decode_encode {r : RawTransaction} (h : r.encode.length < Bytes.maxLength) : decode r.encode = .ok r :=
  decode_of_absorbs (absorbs h)

end RawTransaction

namespace Transaction

/-- A transaction takes in its own encoding. -/
theorem absorbs {depth : Nat} {t : Transaction} (h : t.encode.length < Bytes.maxLength) :
    Absorbs take (depth + 3) t.encode {} t := by
  have h1 : Absorbs take (depth + 3) (optionalField 1 (t.raw.map RawTransaction.encode)) {} { raw := t.raw } := by
    cases hr : t.raw with
    | none => exact .nil _
    | some r =>
      have hraw := Nat.lt_of_le_of_lt (length_le_encode hr) h
      exact absorbs_nestedField (fun r => ({ raw := some r } : Transaction)) (by decide)
        (Bytes.lt_size_of_lt_maxLength hraw) (RawTransaction.absorbs hraw) fun _ => rfl
  have h2 : Absorbs take (depth + 3) (repeatedField 2 (t.signatures.map id)) { raw := t.raw }
      { t with results := [] } := by
    refine absorbs_repeatedField (fun signatures => { t with signatures := signatures, results := [] })
      t.signatures [] ?_
    intro front signature hsignature
    have hshort := Nat.lt_of_le_of_lt (length_signature_le_encode hsignature) h
    have hitem : Absorbs take (depth + 3) (delimitedField 2 signature) { t with signatures := front, results := [] }
        { t with signatures := front ++ [signature], results := [] } :=
      absorbs_delimitedField (fun s => { t with signatures := front ++ [s], results := [] }) (by decide)
        (Bytes.lt_size_of_lt_maxLength hshort) fun _ => rfl
    exact hitem
  have h5 : Absorbs take (depth + 3) (repeatedField 5 (t.results.map TransactionResult.encode))
      { t with results := [] } t := by
    refine absorbs_repeatedField (fun results => { t with results := results }) t.results [] ?_
    intro front result hresult
    have hshort := Nat.lt_of_le_of_lt (length_result_le_encode hresult) h
    have hitem : Absorbs take (depth + 3) (delimitedField 5 result.encode) { t with results := front }
        { t with results := front ++ [result] } :=
      absorbs_nestedField (fun r => { t with results := front ++ [r] }) (by decide)
        (Bytes.lt_size_of_lt_maxLength hshort) result.absorbs fun _ => rfl
    exact hitem
  rw [List.map_id] at h2
  exact (h1.append h2).append h5

/-- A transaction decodes from its encoding. -/
theorem decode_encode {t : Transaction} (h : t.encode.length < Bytes.maxLength) : decode t.encode = .ok t :=
  decode_of_absorbs (absorbs h)

/-! ## Raw data inside a transaction -/

/-- What is found as raw data in the encoding of a transaction: the octets of the first field, if it is the field of raw
data. -/
def rawOctets (encoding : Bytes) : Reading Bytes := do
  let k ← readKey encoding
  if k.value = ⟨1, .delimited⟩ then
    return (← readDelimited k.rest).value
  else fail .underflow

/-- The raw data in the encoding of a transaction is the encoding of its raw data. -/
theorem rawOctets_encode {t : Transaction} {raw : RawTransaction} (hraw : t.raw = some raw)
    (h : t.encode.length < Bytes.maxLength) :
    rawOctets t.encode = .ok raw.encode := by
  have hlength := length_le_encode hraw
  let rest := repeatedField 2 t.signatures ++ repeatedField 5 (t.results.map TransactionResult.encode)
  have hencode : t.encode = Key.encode ⟨1, .delimited⟩ ++ (varint raw.encode.length ++ raw.encode ++ rest) := by
    simp only [encode, hraw, Option.map_some, optionalField, delimitedField, List.append_assoc, rest]
  have hvalid : Key.Valid ⟨1, .delimited⟩ := ⟨by decide, by decide⟩
  obtain ⟨_, hkey⟩ := readKey_encode hvalid (varint raw.encode.length ++ raw.encode ++ rest)
  have hshort : raw.encode.length < UInt64.size := Bytes.lt_size_of_lt_maxLength (Nat.lt_of_le_of_lt hlength h)
  obtain ⟨_, hread⟩ := readDelimited_append hshort rest
  rw [hencode]
  unfold rawOctets
  rw [hkey, Result.ok_bind]
  dsimp only
  rw [if_pos rfl, hread]
  rfl

end Transaction

end CheckpointRelay
