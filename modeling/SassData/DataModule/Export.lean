import SassData.DataModule.Encode
import SassData.FileTree

/-!
The exporting process: it runs one data module and writes the value of `default` as JSON text to its output. All that
the module prints goes to the other stream, where a single line follows it if the export fails. The exit code alone
tells how it ended.
-/

namespace SassData

open Import (ExitCode)

structure Report where
  exit : ExitCode
  stdout : String
  stderr : String
deriving DecidableEq

structure Ended where
  status : Int
  stdout : String
  stderr : String
deriving DecidableEq

/-- What the interpreter of the exporting process adds: how deep the containers of a value may stand in one another to
be written, and what it says by itself of an exception that escapes, and of coroutines that nobody has waited for. -/
structure Runtime where
  nesting : Nat
  traceback : Thrown → String
  warning : Nat → String

namespace Export

variable (x : Runtime)

def failed (exit : ExitCode) (printed line : String) : Report :=
  ⟨exit, "", printed ++ line ++ "\n"⟩

def because (what path : String) (e : Thrown) : String :=
  what ++ ": " ++ path ++ " (" ++ e.summary ++ ")"

def importFailed (path printed : String) (e : Thrown) : Except Thrown Report :=
  if e.failsModule then .ok (failed .importFailed printed (because "Could not import module" path e))
  else .error e

def writeOut (path printed : String) (v : Value) : Report :=
  match v.toJson Value.exportRules x.nesting with
  | .ok j => ⟨.ok, j.render .ascii, printed⟩
  | .error fault =>
    failed .dataSerializationFailed printed
      (because "Imported module data could not be serialized" path fault.thrown)

def settle (path printed : String) : Value → Except Thrown Report
  | .coroutine prints thrown result =>
    let printed := printed ++ Print.all path prints
    match thrown with
    | some e => importFailed path printed e.leavingCoroutine
    | none => .ok (writeOut x path printed result)
  | v => .ok (writeOut x path printed v)

def runModule (path : String) (m : DataModule) : Except Thrown Report :=
  let printed := Print.all path m.prints
  match m.thrown with
  | some e => importFailed path printed e
  | none =>
    match m.exported with
    | none => .ok (failed .noDefaultExport printed ("Imported module has no default export: " ++ path))
    | some v => settle x path printed v

def openedDirectory (path : String) : Thrown :=
  .ofClass "IsADirectoryError" ("[Errno 21] Is a directory: " ++ Text.Quoted.quoted path)

def exportPath (t : FileTree) (path : String) : Except Thrown Report :=
  if !Path.isAbsolute path.toList then
    .ok (failed .invalidPath "" ("File path must be absolute: " ++ path))
  else
    match t.module? path with
    | some m => runModule x path m
    | none =>
      if t.pathExists path then importFailed path "" (openedDirectory path)
      else .ok (failed .fileNotFound "" ("File does not exist: " ++ path))

def run (t : FileTree) (arguments : List String) : Except Thrown Report :=
  exportPath x t (arguments.headD "")

def remarks (t : FileTree) (path : String) : String :=
  match t.module? path with
  | some m => if Path.isAbsolute path.toList ∧ m.forgotten ≠ 0 then x.warning m.forgotten else ""
  | none => ""

/-- The process with its arguments. Behind what the program writes stands what the interpreter says, also of an
exception that escapes. -/
def process (t : FileTree) (arguments : List String) : Ended :=
  let path := arguments.headD ""
  match run x t arguments with
  | .ok r => ⟨r.exit.code, r.stdout, r.stderr ++ remarks x t path⟩
  | .error e => ⟨1, "", t.printedAt path ++ x.traceback e ++ remarks x t path⟩

end Export

end SassData
