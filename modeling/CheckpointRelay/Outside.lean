import CheckpointRelay.Dialogue
import CheckpointRelay.Http.Basic

/-!
# The outside

Everything that the program asks of the machine that it runs on, as questions: a variable of the environment, a file, an
exchange over the network, and a pause. A program is a dialogue of these.
-/

namespace CheckpointRelay

/-- What is found under a path. -/
inductive FileState
  | missing
  /-- There is something, but it cannot be read. -/
  | unreadable (reason : String)
  | content (octets : Bytes)

/-- A question to the outside. -/
inductive Outside
  /-- What is the value of this variable of the environment? -/
  | environment (name : String)
  /-- What is under this path? -/
  | file (path : String)
  /-- What is the response to this request? -/
  | exchange (request : Http.Request)
  /-- Wait this many milliseconds. -/
  | pause (milliseconds : Nat)

/-- The type of the answer to a question. -/
abbrev Outside.Answer : Outside → Type
  | .environment _ => Option String
  | .file _ => FileState
  | .exchange _ => Except Http.Fault Http.Response
  | .pause _ => Unit

/-- A computation that consults the outside. -/
abbrev OutsideM (α : Type) := Dialogue Outside Outside.Answer α

namespace Outside

/-- The value of a variable of the environment. -/
def getVariable (name : String) : OutsideM (Option String) :=
  Dialogue.question (Outside.environment name)

/-- What is under a path. -/
def readFile (path : String) : OutsideM FileState :=
  Dialogue.question (Outside.file path)

/-- The response to a request. -/
def send (request : Http.Request) : OutsideM (Except Http.Fault Http.Response) :=
  Dialogue.question (Outside.exchange request)

/-- A pause, unless it is of no length. -/
def sleep (milliseconds : Nat) : OutsideM Unit :=
  if milliseconds = 0 then .done () else Dialogue.question (Outside.pause milliseconds)

end Outside

end CheckpointRelay
