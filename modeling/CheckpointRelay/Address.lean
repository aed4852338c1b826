import CheckpointRelay.Hash.Keccak256
import CheckpointRelay.Text.Base58
import CheckpointRelay.Text.Blank
import CheckpointRelay.Text.Hex

/-!
# Account addresses

An account is twenty octets. It is written as twenty-one, behind the marker `0x41`, in Base58 with a checksum or in
hexadecimal, and as the twenty alone behind `0x` where a contract is meant. `Address.parse` reads all of these.
-/

namespace CheckpointRelay

/-- An account. -/
structure Address where
  /-- The twenty octets of the account. -/
  account : Octets 20
  deriving DecidableEq

namespace Address

/-- The octet in front of every account. -/
def marker : UInt8 := 0x41

/-- Why something is no address. -/
inductive Error
  /-- It has not twenty-one octets. -/
  | length (got : Nat)
  /-- It starts with another octet than the marker. -/
  | marker (got : UInt8)
  /-- The account alone has not twenty octets. -/
  | accountLength (got : Nat)
  /-- The text is not Base58 with a checksum. -/
  | base58 (text : String) (cause : Base58.Error)
  /-- The text is not hexadecimal. -/
  | hex (text : String) (cause : Hex.Error)
  deriving DecidableEq, Repr

/-- The wording of an address error. -/
def Error.message : Error → String
  | .length got => s!"expected 21 bytes, got {got}"
  | .marker got => s!"expected prefix 0x41, got 0x{Hex.encode [got]}"
  | .accountLength got => s!"expected 20-byte EVM address, got {got} bytes"
  | .base58 text cause => s!"{text}: {cause.message}"
  | .hex text cause => s!"{text}: {cause.message}"

/-- The twenty-one octets of an address. -/
def bytes (a : Address) : Bytes :=
  marker :: a.account.bytes

/-- The address of an account. -/
def ofAccount (b : Bytes) : Except Error Address :=
  match Octets.ofBytes? 20 b with
  | some account => .ok ⟨account⟩
  | none => .error (.accountLength b.length)

/-- The address that twenty-one octets write. -/
def ofBytes (b : Bytes) : Except Error Address :=
  match b with
  | [] => .error (.length 0)
  | first :: rest =>
    match Octets.ofBytes? 20 rest with
    | none => .error (.length (rest.length + 1))
    | some account => if first = marker then .ok ⟨account⟩ else .error (.marker first)

/-- The address that a Base58 text writes. -/
def ofBase58 (text : String) : Except Error Address :=
  match Base58.decodeCheck text with
  | .ok payload => ofBytes payload
  | .error cause => .error (.base58 text cause)

/-- The address that hexadecimal digits write, with or without a marker `0x`: the account alone if they are twenty
octets. -/
def ofHex (text : String) : Except Error Address :=
  match Hex.decodeChars (Text.dropHexMarker text.toList) with
  | .error cause => .error (.hex text cause)
  | .ok b => if b.length = 20 then ofAccount b else ofBytes b

/-- The address that a text writes in any of its forms. Blank characters around it are ignored, and Base58 starts with
`T`. -/
def parse (text : String) : Except Error Address :=
  let trimmed := Text.trim text
  if trimmed.toList.head? = some 'T' then ofBase58 trimmed else ofHex trimmed

/-- The Base58 form. -/
def base58 (a : Address) : String :=
  Base58.encodeCheck a.bytes

/-- The hexadecimal form of all twenty-one octets. -/
def hex (a : Address) : String :=
  Hex.encode a.bytes

/-- The hexadecimal form of the account behind `0x`. -/
def accountHex (a : Address) : String :=
  "0x" ++ Hex.encode a.account.bytes

instance : ToString Address := ⟨base58⟩

/-- The address of a public point: the last twenty octets of the hash of its coordinates. -/
def ofPoint (coordinates : Octets 64) : Address :=
  ⟨⟨(Keccak256.digest coordinates.bytes).bytes.drop 12, by rw [List.length_drop, (Keccak256.digest _).length_eq]⟩⟩

/-- An address is 21 octets: the prefix and the twenty of the account. -/
theorem length_bytes (a : Address) : a.bytes.length = 21 := by
  simp [bytes, a.account.length_eq]

/-- The octets of an address are accepted as that address. -/
theorem ofBytes_bytes (a : Address) : ofBytes a.bytes = .ok a := by
  simp [ofBytes, bytes, Octets.ofBytes?_bytes]

/-- The account of an address, taken alone, is accepted as that address. -/
theorem ofAccount_account (a : Address) : ofAccount a.account.bytes = .ok a := by
  simp [ofAccount, Octets.ofBytes?_bytes]

end Address

end CheckpointRelay
