/-!
# Arguments

A command takes options, each with a value, and nothing else. The value stands in the same argument as the option, or is
the next one, which then does not start with a hyphen. `readOptions` reads the options of a command and stops at the
name of a command inside it.

An option whose value is the next argument is settled late: only when another option of the same command is read, or
when the command inside has been read. Until then it is not noticed that it is given twice.
-/

namespace CheckpointRelay.CommandLine

/-- An option with a value. -/
structure Flag where
  /-- The letter behind one hyphen, if it has one. -/
  letter : Option Char := none
  /-- The name behind two hyphens. -/
  name : String
  /-- What the value is called. -/
  valueName : String
  about : String := ""
  required : Bool := true
  repeatable : Bool := false
  deriving DecidableEq

/-- An argument by its form. -/
inductive Argument
  /-- Two hyphens alone. -/
  | terminator
  /-- Two hyphens and a name, with a value behind an equals sign or without. -/
  | long (name : List Char) (value : Option (List Char))
  /-- One hyphen and what follows it. -/
  | short (letter : Char) (rest : List Char)
  /-- No hyphen, or nothing behind it. -/
  | plain

/-- The form of an argument. -/
def Argument.ofChars : List Char → Argument
  | ['-', '-'] => .terminator
  | '-' :: '-' :: name =>
    match name.dropWhile (· ≠ '=') with
    | _ :: value => .long (name.takeWhile (· ≠ '=')) (some value)
    | [] => .long name none
  | '-' :: letter :: rest => .short letter rest
  | _ => .plain

/-- Why arguments are not carried out. -/
inductive Stop
  /-- Help is asked for. -/
  | help
  /-- They do not follow the rules. -/
  | misuse (reason : String)
  deriving DecidableEq

/-- Options with their values, in the order in which they are given. -/
abbrev Values := List (Flag × String)

/-- The values of an option. -/
def Values.of (values : Values) (name : String) : List String :=
  (values.filter fun v => v.1.name = name).map (·.2)

/-- The value of an option that is given at most once. -/
def Values.one? (values : Values) (name : String) : Option String :=
  (values.of name).head?

/-- The values with one more, unless the option is given already and cannot be repeated. -/
def Values.add (values : Values) (f : Flag) (value : String) : Except Stop Values :=
  if !f.repeatable && values.any (·.1.name = f.name) then
    .error (.misuse s!"the argument --{f.name} cannot be used multiple times")
  else .ok (values ++ [(f, value)])

/-- Options as far as they are read. -/
structure Progress where
  values : Values := []
  /-- The last option, if it is not settled yet. -/
  pending : Option (Flag × String) := none

/-- The values with the last option among them. -/
def Progress.settle (p : Progress) : Except Stop Values :=
  match p.pending with
  | some (f, value) => p.values.add f value
  | none => .ok p.values

/-- What an argument in the place of an option is. -/
inductive OptionRead
  /-- An option, with the value in the same argument if it has one. -/
  | flag (f : Flag) (value : Option String)
  /-- The option that asks for help. -/
  | help
  /-- No option of the command. -/
  | unexpected

/-- What an argument in the place of an option is. -/
def OptionRead.ofArgument (flags : List Flag) (argument : String) : OptionRead :=
  match Argument.ofChars argument.toList with
  | .terminator | .plain => .unexpected
  | .long name value =>
    if name = "help".toList then if value = none then .help else .unexpected
    else match flags.find? fun f => f.name.toList = name with
    | none => .unexpected
    | some f => .flag f (value.map String.ofList)
  | .short letter rest =>
    if letter = 'h' then .help
    else match flags.find? fun f => f.letter = some letter, rest with
    | none, _ => .unexpected
    | some f, [] => .flag f none
    | some f, '=' :: value => .flag f (some (String.ofList value))
    | some f, value => .flag f (some (String.ofList value))

/-- Whether an argument can be the value of the option before it. -/
def isValue (argument : String) : Bool :=
  match Argument.ofChars argument.toList with
  | .plain => true
  | _ => false

/-- Reads options up to the name of a command inside or the end of the arguments. -/
def readOptions (flags : List Flag) (isCommand : String → Bool) (p : Progress) :
    List String → Except Stop (Progress × List String)
  | [] => .ok (p, [])
  | ["--"] => .ok (p, [])
  | argument :: rest =>
    if isCommand argument then .ok (p, argument :: rest)
    else match OptionRead.ofArgument flags argument, rest with
    | .unexpected, _ => .error (.misuse s!"unexpected argument '{argument}' found")
    | .help, _ => do
      let _ ← p.settle
      throw .help
    | .flag f (some value), rest => do
      let values ← p.settle
      readOptions flags isCommand { values := ← values.add f value } rest
    | .flag f none, [] =>
      .error (.misuse s!"a value is required for '--{f.name} <{f.valueName}>' but none was supplied")
    | .flag f none, value :: rest =>
      if isValue value then do readOptions flags isCommand { values := ← p.settle, pending := some (f, value) } rest
      else .error (.misuse s!"a value is required for '--{f.name} <{f.valueName}>' but none was supplied")

/-- Checks that the required options are given. -/
def checkRequired (flags : List Flag) (values : Values) : Except Stop Unit :=
  match flags.find? fun f => f.required && !values.any (·.1.name = f.name) with
  | some f => .error (.misuse s!"the following required arguments were not provided: --{f.name} <{f.valueName}>")
  | none => .ok ()

end CheckpointRelay.CommandLine
