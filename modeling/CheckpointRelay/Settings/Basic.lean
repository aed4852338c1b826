import CheckpointRelay.Controller.Relay
import CheckpointRelay.Node.Api
import CheckpointRelay.Toml.Document

/-!
# Settings

What is set about the node, the controller and the relayer. Secrets are not among the settings: these name the variables
of the environment that hold them. A record of settings is read from a table or a list of values by its types alone
(`Settings.ofTree?`), and `Settings.check` says which records can be used.
-/

namespace CheckpointRelay

/-- What is set about the node and the sending of transactions. -/
structure NodeSettings where
  /-- The address of the node. -/
  url : String
  /-- The address of the controller. -/
  controller : String
  feeLimit : UInt64
  /-- The value attached to a batch. -/
  callValue : UInt64
  /-- The number of lookups before giving up on a transaction. -/
  lookups : UInt32
  /-- The pause between two lookups in milliseconds. -/
  pause : UInt64
  /-- The time for an exchange in milliseconds. -/
  timeout : UInt64
  /-- The variable that holds the key that is shown to the node. -/
  apiKeyVariable : Option String
  deriving DecidableEq, Repr

/-- All that is set. -/
structure Settings where
  node : NodeSettings
  /-- The variable that holds the private key. -/
  keyVariable : String
  deriving DecidableEq, Repr

namespace Settings

/-! ## Reading -/

/-- The names of the settings about the node, in the order of a list that stands for them. -/
def nodeFieldNames : List String :=
  ["rpc_url", "controller_address", "fee_limit_sun", "multicall_call_value_sun", "poll_times", "poll_interval_ms",
    "request_timeout_ms", "api_key_env"]

/-- The settings about the node that a value writes; all but the two addresses may be absent. -/
def nodeOfTree? (surplus : Tree.Surplus) (t : Tree) : Option NodeSettings := do
  match ← t.fields? surplus nodeFieldNames with
  | [url, controller, feeLimit, callValue, lookups, pause, timeout, apiKeyVariable] =>
    return {
      url := ← Tree.required Tree.text? url
      controller := ← Tree.required Tree.text? controller
      feeLimit := ← Tree.withDefault 150000000 Tree.uint64? feeLimit
      callValue := ← Tree.withDefault 0 Tree.uint64? callValue
      lookups := ← Tree.withDefault 20 Tree.uint32? lookups
      pause := ← Tree.withDefault 3000 Tree.uint64? pause
      timeout := ← Tree.withDefault 15000 Tree.uint64? timeout
      apiKeyVariable := ← Tree.optional Tree.text? apiKeyVariable }
  | _ => none

/-- The variable of the private key, unless it is set. -/
def defaultKeyVariable : String := "TRON_RELAYER_PRIVATE_KEY"

/-- The variable of the private key that a value writes. -/
def keyVariableOfTree? (surplus : Tree.Surplus) (t : Tree) : Option String := do
  match ← t.fields? surplus ["private_key_env"] with
  | [name] => Tree.withDefault defaultKeyVariable Tree.text? name
  | _ => none

/-- The settings that a value writes. -/
def ofTree? (surplus : Tree.Surplus) (t : Tree) : Option Settings := do
  match ← t.fields? surplus ["tron", "relayer"] with
  | [node, relayer] =>
    return {
      node := ← Tree.required (nodeOfTree? surplus) node
      keyVariable := ← Tree.withDefault defaultKeyVariable (keyVariableOfTree? surplus) relayer }
  | _ => none

/-! ## Use -/

/-- Why settings cannot be used. -/
inductive Error
  /-- There is no file of settings. -/
  | missing (path : String)
  /-- The file of settings cannot be read. -/
  | unreadable (reason : String)
  /-- The file of settings is not TOML. -/
  | notToml (cause : Toml.Error)
  /-- The file of settings lacks one, or sets one to a value of another type. -/
  | illTyped
  /-- The address of the node is blank. -/
  | blankUrl
  /-- The address of the controller is no address. -/
  | controller (text : String) (cause : Address.Error)
  /-- There are to be no lookups. -/
  | noLookups
  /-- There is to be no pause between lookups. -/
  | noPause
  /-- There is to be no time for exchanges. -/
  | noTimeout
  /-- The fee limit has more than sixty-three bits. -/
  | feeLimit
  /-- The attached value has more than sixty-three bits. -/
  | callValue
  /-- The variable of the private key is not set. -/
  | keyUnset (name : String)
  /-- The variable of the key for the node is not set. -/
  | apiKeyUnset (name : String)
  /-- The private key is none. -/
  | key (cause : KeyError)
  deriving DecidableEq, Repr

/-- The wording of an error. -/
def Error.message : Error → String
  | .missing path =>
    "\n".intercalate [s!"Configuration file '{path}' not found. Please copy the template:",
      "cp config/tron-relayer.template.toml config/tron-relayer.toml",
      "Then edit config/tron-relayer.toml with your actual values."]
  | .unreadable reason => reason
  | .notToml cause => cause.message
  | .illTyped => "TOML parse error: a setting is missing or of another type"
  | .blankUrl => "Configuration error: tron.rpc_url is empty"
  | .controller text cause => s!"Invalid controller_address '{text}': invalid Tron address: {cause.message}"
  | .noLookups => "Configuration error: tron.poll_times must be at least 1"
  | .noPause => "Configuration error: tron.poll_interval_ms must be nonzero"
  | .noTimeout => "Configuration error: tron.request_timeout_ms must be nonzero"
  | .feeLimit => "Configuration error: tron.fee_limit_sun does not fit int64"
  | .callValue => "Configuration error: tron.multicall_call_value_sun does not fit int64"
  | .keyUnset name =>
    s!"Environment variable '{name}' not set. Please set it with the relayer's Tron private key (hex)."
  | .apiKeyUnset name => s!"Environment variable '{name}' not set (api_key_env)."
  | .key cause => (Failure.invalidKey cause.message).message

/-- The address of the controller. -/
def controllerAddress (s : Settings) : Except Error Address :=
  (Address.parse s.node.controller).mapError (.controller s.node.controller)

/-- A setting as a number of sixty-four bits with sign. -/
def signed (e : Error) (n : UInt64) : Except Error Int64 :=
  if (n.toNat : Int) ≤ Int64.maxValue.toInt then .ok n.toInt64 else .error e

/-- How batches are sent. -/
def sendSettings (s : Settings) : Except Error SendSettings := do
  let feeLimit ← signed .feeLimit s.node.feeLimit
  let callValue ← signed .callValue s.node.callValue
  return { feeLimit, callValue, lookups := s.node.lookups, pause := s.node.pause }

/-- Checks that the settings can be used, but for the attached value, which is checked when a batch is sent. -/
def check (s : Settings) : Except Error Unit := do
  if (Text.trimChars s.node.url.toList).isEmpty then throw .blankUrl
  let _ ← s.controllerAddress
  if s.node.lookups = 0 then throw .noLookups
  if s.node.pause = 0 then throw .noPause
  if s.node.timeout = 0 then throw .noTimeout
  let _ ← s.sendSettings
  return ()

end Settings

end CheckpointRelay
