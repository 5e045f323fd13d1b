import SassData.Import.External

namespace SassData.Import

inductive Interpreter
  | running
  | command (name : String)
deriving DecidableEq, Inhabited

structure Options where
  includePaths : List String := []
  external : Option ExternalResolver := none
  timeout : Option Binary64 := none
  interpreter : Interpreter := .running

def Interpreter.name : Interpreter → String
  | .running => "<default>"
  | .command name => name

inductive Callable
  | resolver (r : ExternalResolver)
  | value (v : Json)

namespace Options

def separator : Char := ':'

def searchPath (s : String) : List String :=
  ((Text.pieces separator s.toList).map String.ofList).filter (· ≠ "")

def pathList : List Json → Except Failure (List String)
  | [] => .ok []
  | .str s :: vs => (pathList vs).map fun ps => if s = "" then ps else s :: ps
  | v :: _ => .error (.notPath v.typeName)

def readIncludePaths : Json → Except Failure (List String)
  | .null => .ok []
  | .str s => .ok (searchPath s)
  | .arr items => pathList items
  | .obj members => .ok ((members.map (·.1)).filter (· ≠ ""))
  | v => .error (.notIterable v.typeName)

def readInterpreter : Option Json → Except Field.Fault Interpreter
  | none => .ok .running
  | some v => (Field.text v).map .command

def readCallable : Callable → Except Field.Fault (Option ExternalResolver)
  | .resolver r => .ok (some r)
  | .value .null => .ok none
  | .value _ => .error .notCallable

structure Fields where
  includePaths : Option Json := none
  external : Option Callable := none
  timeout : Option Json := none
  interpreter : Option Json := none

def ofFields (f : Fields) : Except Failure Options := do
  let includePaths ← readIncludePaths (f.includePaths.getD .null)
  let external := readCallable (f.external.getD (.value .null))
  let timeout := Field.positive? (f.timeout.getD .null)
  let interpreter := readInterpreter f.interpreter
  match external, timeout, interpreter with
  | .ok external, .ok timeout, .ok interpreter =>
    .ok { includePaths, external, timeout, interpreter }
  | _, _, _ =>
    .error (.invalidFields
      (Field.faultOf "resolve_request" external ++ Field.faultOf "timeout" timeout ++
        Field.faultOf "python_executable" interpreter))

def searchPathVariable : String := "SASS_PATH"

def reserved : List String := ["cls", "environ"]

/-- The options for fields and an environment, which stands in for missing include paths. All names of the fields are
given, also those that mean nothing. -/
def ofEnvironment (environment : Members) (names : List String) (f : Fields) : Except Failure Options :=
  match names.find? reserved.contains with
  | some name => .error (.givenTwice name)
  | none => ofFields { f with
      includePaths := some (f.includePaths.getD ((environment.get? searchPathVariable).getD (.str ""))) }

end Options

end SassData.Import
