import CheckpointRelay.Settings.Basic

/-!
# From settings to a session

Settings are found in a file, and the secrets that they name in the environment. Together they make a session: a
relayer, and the node that it asks.
-/

namespace CheckpointRelay

/-- A relayer and the node that it asks. -/
structure Session where
  relayer : Relayer
  endpoint : Node.Endpoint

/-- The operation with all its questions put to the node. -/
def Session.perform {α : Type} (s : Session) (operation : Relayer.RelayM α) : OutsideM (Except Relayer.Error α) :=
  s.endpoint.connect (Relayer.throughNode operation)

/-- A computation about settings that consults the outside. -/
abbrev SettingsM (α : Type) := ExceptT Settings.Error (Dialogue Outside Outside.Answer) α

namespace Settings

/-- A result about settings. -/
def checked {α : Type} (r : Except Error α) : SettingsM α :=
  ExceptT.mk (.done r)

/-- What the outside answers. -/
def consult {α : Type} (d : OutsideM α) : SettingsM α :=
  ExceptT.mk (d.bind fun a => .done (.ok a))

/-! ## Files -/

/-- The variable that holds the path of the file. -/
def pathVariable : String := "TRON_RELAYER_CONFIG_PATH"

/-- The path of the file, unless another is given. -/
def defaultPath : String := "config/tron-relayer.toml"

/-- The settings in a file. -/
def ofFile (path : String) : FileState → Except Error Settings
  | .missing => .error (.missing path)
  | .unreadable reason => .error (.unreadable reason)
  | .content octets => do
    let text ← (Utf8.decode octets).mapError fun _ => .unreadable "stream did not contain valid UTF-8"
    let t ← (Toml.parse text).mapError .notToml
    match ofTree? .ignored t with
    | none => throw .illTyped
    | some s => do
      s.check
      return s

/-- The path that is given, else the one in the environment, else the default. -/
def chosenPath : Option String → SettingsM String
  | some path => pure path
  | none => do return (← consult (Outside.getVariable pathVariable)).getD defaultPath

/-- The settings in the file at the chosen path. -/
def load (given : Option String) : SettingsM Settings := do
  let path ← chosenPath given
  checked (ofFile path (← consult (Outside.readFile path)))

/-! ## Secrets -/

/-- The text of the private key. -/
def privateKey (s : Settings) : SettingsM String := do
  match ← consult (Outside.getVariable s.keyVariable) with
  | some text => return text
  | none => throw (.keyUnset s.keyVariable)

/-- The key that is shown to the node, if one is named. -/
def apiKey (s : Settings) : SettingsM (Option String) := do
  match s.node.apiKeyVariable with
  | none => return none
  | some name =>
    match ← consult (Outside.getVariable name) with
    | some text => return some text
    | none => throw (.apiKeyUnset name)

/-- The session that settings and environment make. -/
def session (s : Settings) : SettingsM Session := do
  let text ← s.privateKey
  let signer ← checked ((Signer.ofHex text).mapError .key)
  let apiKey ← s.apiKey
  let controller ← checked s.controllerAddress
  let settings ← checked s.sendSettings
  return ⟨⟨signer, controller, settings⟩, Node.Endpoint.ofUrl s.node.url apiKey s.node.timeout.toNat⟩

end Settings

end CheckpointRelay
