import CheckpointRelay.CommandLine.Commands

/-!
# Help

The text that tells how the program, or one of its commands, is used. Descriptions stand in a column of their own.
-/

namespace CheckpointRelay.CommandLine

/-- A text with blanks behind it up to a width. -/
def padded (width : Nat) (s : String) : String :=
  s ++ String.ofList (List.replicate (width - s.length) ' ')

/-- Rows of a name and a description, the descriptions below each other. -/
def table (rows : List (String × String)) : List String :=
  let width := (rows.map fun r => r.1.length).foldl max 0
  rows.map fun (name, about) => "  " ++ padded width name ++ "  " ++ about

/-- How an option is written. -/
def flagText (f : Flag) : String :=
  let letter := match f.letter with
    | some c => s!"-{c}, "
    | none => "    "
  s!"{letter}--{f.name} <{f.valueName}>"

/-- The rows of options, help among them. -/
def flagRows (flags : List Flag) : List (String × String) :=
  flags.map (fun f => (flagText f, f.about)) ++ [("-h, --help", "Print help")]

/-- How a command is given in short. -/
def usage (f : Form) : String :=
  " ".intercalate ("Usage: tron-relayer" :: f.name :: f.flags.map fun flag => s!"--{flag.name} <{flag.valueName}>")

/-- What the help command is about. -/
def helpAbout : String := "Print this message or the help of the given subcommand(s)"

/-- The lines of help on a topic. -/
def helpLines : Topic → List String
  | .program =>
    ["Checkpointed multicall relayer for the Tron bridge controller", "",
      "Usage: tron-relayer [OPTIONS] <COMMAND>", "", "Commands:"] ++
      table (forms.map (fun f => (f.name, f.about)) ++ [("help", helpAbout)]) ++
      ["", "Options:"] ++ table (flagRows generalFlags)
  | .command f => [f.about, "", usage f, "", "Options:"] ++ table (flagRows f.flags)
  | .help =>
    [helpAbout, "", "Usage: tron-relayer help [COMMAND]...", "", "Arguments:"] ++
      table [("[COMMAND]...", "Print help for the subcommand(s)")]

/-- The help on a topic. -/
def helpText (topic : Topic) : String :=
  "\n".intercalate (helpLines topic) ++ "\n"

end CheckpointRelay.CommandLine
