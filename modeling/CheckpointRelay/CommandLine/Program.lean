import CheckpointRelay.CommandLine.Help
import CheckpointRelay.Settings.Session

/-!
# The program

What the program says and how it ends, for every list of arguments and whatever the outside answers: `run`. One command
is carried out in one session. The values of its options are looked at after the session is made, and before the node is
asked anything.
-/

namespace CheckpointRelay.CommandLine

/-- How the program ends. -/
structure Ending where
  code : UInt8
  /-- What it says. -/
  output : String := ""
  /-- What it says about errors. -/
  errors : String := ""
  deriving DecidableEq, Repr

/-- The end with an error. -/
def Ending.failed (r : Report) : Ending :=
  { code := 1, errors := s!"Error: {r.multiline}\n" }

/-- The end without carrying out the arguments. -/
def Ending.misused (reason : String) : Ending :=
  let usage := "Usage: tron-relayer [OPTIONS] <COMMAND>"
  { code := 2, errors := s!"error: {reason}\n\n{usage}\n\nFor more information, try '--help'.\n" }

/-- A computation of the program. -/
abbrev ProgramM (α : Type) := ExceptT Report (Dialogue Outside Outside.Answer) α

/-- A result of the program. -/
def settled {α : Type} (r : Except Report α) : ProgramM α :=
  ExceptT.mk (.done r)

/-! ## Values of options -/

/-- The address that an option gives. -/
def addressValue (text : String) : Except Report Address :=
  (Address.parse text).mapError fun e =>
    (Failure.invalidAddress e.message).report.under s!"Invalid Tron address: {text}"

/-- The characters after any number of markers `0x`. -/
def dropHexMarkers : List Char → List Char
  | '0' :: 'x' :: rest => dropHexMarkers rest
  | cs => cs

/-- The salt that an option gives. -/
def saltValue (text : String) : Except Report Word :=
  match Hex.decodeChars (dropHexMarkers text.toList) with
  | .error e => .error ⟨s!"Invalid salt hex: {text}", [e.message]⟩
  | .ok b =>
    match Octets.ofBytes? 32 b with
    | some salt => .ok salt
    | none => .error ⟨s!"Salt must be 32 bytes, got {b.length}", []⟩

/-- Why a text is no amount. -/
inductive AmountError
  /-- A character is no digit. -/
  | badCharacter
  /-- The digits write a number that is too large. -/
  | tooLarge
  deriving DecidableEq, Repr

/-- The wording of an error. -/
def AmountError.message : AmountError → String
  | .badCharacter => "InvalidCharacter"
  | .tooLarge => "InvalidLength"

/-- A number with one more decimal digit. -/
def withDigit (n : Uint256) (c : Char) : Except AmountError Uint256 :=
  if Text.isDigit c then
    match Uint256.ofNat? (n.val * 10 + Text.numberOf 10 [c]) with
    | some next => .ok next
    | none => .error .tooLarge
  else .error .badCharacter

/-- The amount that an option gives in decimal digits, of which there may be none. The first character that is no digit,
or that makes the number too large, is refused. -/
def amountValue (text : String) : Except Report Uint256 :=
  (text.toList.foldlM withDigit .zero).mapError fun e => ⟨s!"Invalid amount '{text}': {e.message}", []⟩

/-! ## Commands -/

/-- The result of an operation of the relayer. -/
def perform {α : Type} (s : Session) (operation : Relayer.RelayM α) : ProgramM α :=
  ExceptT.mk ((s.perform operation).bind fun r => .done (r.mapError Relayer.Error.report))

/-- What a command says. -/
def Command.run (s : Session) : Command → ProgramM String
  | .address =>
    let a := s.relayer.signer.address
    return s!"base58: {a.base58}\nhex:    {a.hex}\nevm:    {a.accountHex}"
  | .tip => do return "0x" ++ Hex.encode (← perform s s.relayer.eventChainTip).bytes
  | .usdt => do return (← perform s s.relayer.usdt).base58
  | .pulledUsdt => do return (← perform s s.relayer.pulledUsdt).decimal
  | .lpRate token => do
    let token ← settled (addressValue token)
    return (← perform s (s.relayer.lpExchangeRateFor token)).decimal
  | .pull token salts => do
    let token ← settled (addressValue token)
    let salts ← settled (salts.mapM saltValue)
    perform s (s.relayer.pullFromReceivers token salts)
  | .rebalance rebalancer amount => do
    let rebalancer ← settled (addressValue rebalancer)
    let amount ← settled (amountValue amount)
    perform s (s.relayer.rebalanceUsdt rebalancer amount)
  | .assertTip => perform s s.relayer.assertTip

/-- A result about settings. -/
def withSettings {α : Type} (d : SettingsM α) : ProgramM α :=
  ExceptT.mk (d.run.bind fun r => .done (r.mapError fun e => ⟨e.message, []⟩))

/-- Carries out a command with the settings at a path. -/
def carryOut (path : Option String) (command : Command) : ProgramM String := do
  let settings ← withSettings (Settings.load path)
  let session ← withSettings settings.session
  command.run session

/-- What the program does. -/
def run (arguments : List String) : OutsideM Ending :=
  match Invocation.ofArguments arguments with
  | .misuse reason => .done (.misused reason)
  | .help topic => .done { code := 0, output := helpText topic }
  | .run path command =>
    (carryOut path command).run.bind fun
      | .ok text => .done { code := 0, output := text ++ "\n" }
      | .error report => .done (.failed report)

end CheckpointRelay.CommandLine
