import SassData.DataModule.Export
import SassData.Import.Traced
import SassData.Json.Reader
import SassData.Scss.Printer

namespace SassData.Import

inductive ChildOutcome
  | timedOut
  | notStarted (reason : String)
  | exited (status : Int) (stdout stderr : String)
deriving DecidableEq

abbrev Child := Command → Except Thrown ChildOutcome

def Child.always (o : ChildOutcome) : Child :=
  fun _ => .ok o

/-- The process of an import: the processes that it starts, how deep the lists and objects may stand in one another that
it reads, how many calls it can make inside one another to print, and how many print what is no list or dictionary. -/
structure Host where
  start : Child
  reading : Nat
  calls : Nat
  atom : Value → Nat

def isLonger (x : Binary64) (milliseconds : Nat) : Bool :=
  match x with
  | .finite false m e =>
    if 0 ≤ e then milliseconds < m * Nat.pow 2 e.toNat * 1000 else milliseconds * Nat.pow 2 (-e).toNat < m * 1000
  | .infinity false => true
  | _ => false

def overlong? (x : Binary64) : Option Thrown :=
  if x = .infinity false then some (.ofClass "OverflowError" "cannot convert float infinity to integer")
  else if isLonger x 9223372036854 then
    some (.ofClass "OverflowError" "timestamp too large to convert to C _PyTime_t")
  else if isLonger x 2147483647 then some (.ofClass "OverflowError" "timeout is too large")
  else none

def Command.refusal? (c : Command) : Option Thrown :=
  if c.interpreter.name.toList.contains '\x00' ∨ c.path.toList.contains '\x00' then
    some (.ofClass "ValueError" "embedded null byte")
  else c.timeout.bind overlong?

def ChildOutcome.ofEnded (e : Ended) : ChildOutcome :=
  .exited e.status e.stdout e.stderr

def Child.ofTree (x : Runtime) (t : FileTree) : Child := fun command =>
  match command.refusal? with
  | some e => .error e
  | none => .ok (.ofEnded (Export.process x t [command.path]))

def statusOf (code : Int) : Int :=
  -- Eight bits of an exit code are kept.
  code % 256

def ChildOutcome.ofBytes (status : Int) (stdout stderr : List UInt8) : ChildOutcome :=
  let text (bytes : List UInt8) := String.ofList (Text.unifyNewlines (Text.Utf8.decode bytes))
  .exited status (text stdout) (text stderr)

def noSuchCommand (name : String) : String :=
  "[Errno 2] No such file or directory: " ++ Text.Quoted.quoted name

def failWith (kind : ErrorKind) (diagnostic : String) : Failure :=
  .importError (.make (.of kind) (some diagnostic))

def limitText (timeout : Option Binary64) : String :=
  match timeout with
  | some x => x.plainText
  | none => "None"

def tooDeepToRead (mark : Char) : Thrown :=
  .ofClass "RecursionError" ("maximum recursion depth exceeded while decoding a JSON " ++
    (if mark = '[' then "array" else "object") ++ " from a unicode string")

def readData (reading : Nat) (stdout : String) : Except Failure Members :=
  match Json.load reading stdout with
  | .error .malformed => .error (failWith .dataParsingFailed ("Failed to parse JSON data: " ++ stdout))
  | .error (.tooDeep mark) => .error (.thrown (tooDeepToRead mark))
  | .ok (.obj members) => .ok members
  | .ok _ => .error (failWith .invalidData "Data is not an object")

def interpret (reading : Nat) (command : Command) : ChildOutcome → Except Failure Members
  | .timedOut =>
    .error (failWith .timeout
      ("Importing " ++ command.path ++ " did not finish within " ++ limitText command.timeout ++ " seconds"))
  | .notStarted reason =>
    .error (failWith .unknown ("Could not start " ++ command.interpreter.name ++ ": " ++ reason))
  | .exited status stdout stderr =>
    if status = 0 then readData reading stdout
    else .error (.importError (.ofStatus (some status) (some stderr)))

def exitLine : ChildOutcome → Traced Unit
  | .exited status _ _ => Traced.debug (exportModule ++ " exited with " ++ toString status)
  | _ => pure ()

def commandFor (options : Options) (path : String) : Command :=
  ⟨options.interpreter, path, options.timeout⟩

def loadData (host : Host) (options : Options) (path : String) : Traced (Except Failure Members) := do
  let command := commandFor options path
  Traced.debug ("Loading " ++ path)
  Traced.emit (.spawned command)
  match host.start command with
  | .error e => pure (.error (.thrown e))
  | .ok outcome =>
    exitLine outcome
    pure (interpret host.reading command outcome)

def Host.print (host : Host) (members : Members) : Except Failure String :=
  ((Value.entriesToJson (Value.displayRules host.atom) host.calls (Json.membersToValue members)).map
    Scss.declarations).mapError .encoding

def loadSource (host : Host) (options : Options) (path : String) : Traced (Except Failure String) := do
  let data ← loadData host options path
  pure (data.bind host.print)

end SassData.Import
