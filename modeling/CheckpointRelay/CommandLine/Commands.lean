import CheckpointRelay.CommandLine.Arguments

/-!
# Commands

What the program can be told to do, and how it is told: `Invocation.ofArguments`. The values of options are taken as
they are given; what they mean is looked at when a command is carried out.
-/

namespace CheckpointRelay.CommandLine

/-- What the program does. -/
inductive Command
  /-- Tells the address of the relayer. -/
  | address
  /-- Tells the head of the event chain. -/
  | tip
  /-- Tells the USDT token. -/
  | usdt
  /-- Tells the amount of USDT pulled so far. -/
  | pulledUsdt
  /-- Tells the exchange rate of a token. -/
  | lpRate (token : String)
  /-- Sweeps a token from the receivers of salts. -/
  | pull (token : String) (salts : List String)
  /-- Sends an amount of USDT through a rebalancer. -/
  | rebalance (rebalancer amount : String)
  /-- Sends the assertion of the tip as it is. -/
  | assertTip
  deriving DecidableEq, Repr

/-- How a command is given. -/
structure Form where
  name : String
  about : String
  flags : List Flag := []
  /-- The command with the values of its options. -/
  command : Values → Command

/-- The forms of all commands. -/
def forms : List Form :=
  [{ name := "address", about := "Print the relayer address in every encoding", command := fun _ => .address },
    { name := "tip", about := "Read the controller's event-chain tip", command := fun _ => .tip },
    { name := "usdt", about := "Read the controller's USDT token", command := fun _ => .usdt },
    { name := "pulled-usdt", about := "Read the total USDT pulled from receivers", command := fun _ => .pulledUsdt },
    { name := "lp-rate", about := "Read the LP exchange rate of a token"
      flags := [{ name := "token", valueName := "TOKEN" }]
      command := fun values => .lpRate ((values.one? "token").getD "") },
    { name := "pull", about := "Sweep a token from receivers"
      flags := [{ name := "token", valueName := "TOKEN" },
        { name := "salt", valueName := "SALTS", about := "Receiver salt (bytes32 hex), repeatable",
          repeatable := true }]
      command := fun values => .pull ((values.one? "token").getD "") (values.of "salt") },
    { name := "rebalance", about := "Rebalance USDT through a rebalancer"
      flags := [{ name := "rebalancer", valueName := "REBALANCER" },
        { name := "amount", valueName := "AMOUNT", about := "Amount in the token's base units (decimal)" }]
      command := fun values => .rebalance ((values.one? "rebalancer").getD "") ((values.one? "amount").getD "") },
    { name := "assert-tip", about := "Re-assert the current event-chain tip on chain", command := fun _ => .assertTip }]

/-- The options in front of the command. -/
def generalFlags : List Flag :=
  [{ letter := some 'c', name := "config", valueName := "CONFIG", required := false
     about := "Path to configuration file (default: TRON_RELAYER_CONFIG_PATH or config/tron-relayer.toml)" }]

/-- What help is about. -/
inductive Topic
  | program
  | command (f : Form)
  /-- The command that gives help. -/
  | help

/-- What the arguments ask for. -/
inductive Invocation
  /-- A command is to be carried out, with the settings at a path if one is given. -/
  | run (path : Option String) (command : Command)
  | help (topic : Topic)
  /-- The arguments do not follow the rules. -/
  | misuse (reason : String)

/-- The form of the command of a name. -/
def formOf? (name : String) : Option Form :=
  forms.find? (·.name = name)

/-- What is asked for when options are not read to their end. -/
def Invocation.ofStop (topic : Topic) : Stop → Invocation
  | .help => .help topic
  | .misuse reason => .misuse reason

/-- What is asked for behind the word that asks for help. -/
def helpInvocation : List String → Invocation
  | [] => .help .program
  | [name] =>
    if name = "help" then .help .help
    else match formOf? name with
    | some f => .help (.command f)
    | none => .misuse s!"unrecognized subcommand '{name}'"
  | _ :: name :: _ => .misuse s!"unrecognized subcommand '{name}'"

/-- The command of a form with the options behind its name. -/
def Form.read (f : Form) (arguments : List String) : Except Stop Command := do
  let (p, _) ← readOptions f.flags (fun _ => false) {} arguments
  let values ← p.settle
  checkRequired f.flags values
  return f.command values

/-- What is asked for by the name of a command and what follows it, behind general options that are not settled yet.
Help is given and misuse is found in what follows before the general options are settled. -/
def namedInvocation (general : Progress) (name : String) (arguments : List String) : Invocation :=
  if name = "help" then helpInvocation arguments
  else match formOf? name with
  | none => .misuse s!"unrecognized subcommand '{name}'"
  | some f =>
    match f.read arguments, general.settle with
    | .error stop, _ => .ofStop (.command f) stop
    | .ok _, .error stop => .ofStop .program stop
    | .ok command, .ok values => .run (values.one? "config") command

/-- What arguments ask for. -/
def Invocation.ofArguments (arguments : List String) : Invocation :=
  match readOptions generalFlags (fun name => name = "help" || (formOf? name).isSome) {} arguments with
  | .error stop => .ofStop .program stop
  | .ok (_, []) => .misuse "a subcommand is required but one was not provided"
  | .ok (general, name :: rest) => namedInvocation general name rest

end CheckpointRelay.CommandLine
