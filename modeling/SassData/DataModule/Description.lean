import SassData.FileTree
import SassData.Json.Basic
import SassData.Number.Numeral

namespace SassData.Description

def field? (v : Json) (key : String) : Option Json :=
  match v with
  | .obj members => Members.get? members key
  | _ => none

def text? : Json → Option String
  | .str s => some s
  | _ => none

def texts? : Json → Option (List String)
  | .arr items => items.mapM text?
  | _ => none

def integer? (s : String) : Option Int :=
  match Numeral.sign s.toList with
  | (_, []) => none
  | (negative, digits) =>
    if digits.all Char.isDigit then
      let n : Int := Numeral.value digits
      some (if negative then -n else n)
    else none

def className (name : String) : String :=
  if name = "IOError" ∨ name = "EnvironmentError" then "OSError" else name

def originOf (name : String) : Origin :=
  match name with
  | "KeyError" => .failedLookup
  | "StopIteration" => .endOfIteration
  | "SystemExit" => .leaving
  | "KeyboardInterrupt" => .interrupt
  | "BaseException" | "BaseExceptionGroup" | "GeneratorExit" => .extraordinary
  | _ => .ordinary

def unnamed : List String :=
  ["SyntaxError", "IndentationError", "TabError"]

def thrown? (v : Json) : Option Thrown := do
  let name ← (field? v "type").bind text?
  let notes ← texts? ((field? v "notes").getD (.arr []))
  let message := (field? v "message").bind text?
  if unnamed.contains name then pure { name := "KeyError", origin := .failedLookup, message := some name }
  else if name = "Custom" then pure { scope := Thrown.moduleName ++ ".", name, message, notes }
  else match Import.ErrorClass.ofName? name with
    | some c => pure { Thrown.ofImportError c message with notes }
    | none => pure { name := className name, origin := originOf (className name), message, notes }

def print? (v : Json) : Option Print :=
  match field? v "print", field? v "eprint" with
  | some (.str s), _ => some (.text (s ++ "\n"))
  | none, some (.str s) => some (.text (s ++ "\n"))
  | _, _ => (field? v "where").map fun _ => .whereabouts

def prints? (body : Json) : Option (List Print) :=
  match field? body "steps" with
  | none => some []
  | some (.arr steps) => steps.mapM print?
  | some _ => none

def ending? (body : Json) : Option (Option Thrown) :=
  match field? body "raise" with
  | none => some none
  | some e => (thrown? e).map some

def foreignTypes : List String :=
  ["set", "object", "function", "complex"]

mutual

def value? : Json → Option Value
  | .null => some .null
  | .bool b => some (.bool b)
  | .int n => some (.int n)
  | .float x => some (.float x)
  | .str s => some (.str s)
  | .arr items => (values? items).map .list
  | .obj [("int", .str s)] => (integer? s).map .int
  | .obj [("float", .str s)] => (Numeral.ofText? s).map .float
  | .obj [("bytes", .str s)] => some (.bytes s)
  | .obj [("tuple", .arr items)] => (values? items).map .tuple
  | .obj [("dict", .arr entries)] => (entries? entries).map .dict
  | .obj [("cycle", .int level)] => some (.enclosing level.toNat)
  | .obj [("coroutine", .obj body)] => do
    let prints ← prints? (.obj body)
    let thrown ← ending? (.obj body)
    let result ← result? body
    pure (.coroutine prints thrown result)
  | .obj [(tag, _)] => if foreignTypes.contains tag then some (.foreign tag) else none
  | .obj _ => none

def values? : List Json → Option (List Value)
  | [] => some []
  | v :: vs => do
    let v ← value? v
    let vs ← values? vs
    pure (v :: vs)

def entries? : List Json → Option (List (Value × Value))
  | [] => some []
  | .arr [k, v] :: es => do
    let k ← value? k
    let v ← value? v
    let es ← entries? es
    pure ((k, v) :: es)
  | _ => none

def result? : Members → Option Value
  | [] => some .null
  | (k, v) :: ms => if k = "return" then value? v else result? ms

end

def exported? (body : Json) : Option (Option Value) :=
  -- A module that sets it last and throws before exports nothing.
  match field? body "default", field? body "late_default", field? body "raise" with
  | none, _, _ => some none
  | some _, some (.bool true), some _ => some none
  | some v, _, _ => (value? v).map some

def dataModule? : Json → Option DataModule
  | .null => some {}
  | body => do
    let prints ← prints? body
    let thrown ← ending? body
    let exported ← exported? body
    pure { prints, thrown, exported }

def withFiles? (t : FileTree) : Members → Option FileTree
  | [] => some t
  | (path, body) :: files => do
    let m ← dataModule? body
    withFiles? (t.write path m) files

def fileTree? (v : Json) : Option FileTree := do
  let cwd ← text? ((field? v "cwd").getD (.str "/"))
  let directories ← texts? ((field? v "dirs").getD (.arr []))
  let t ← match field? v "files" with
    | none => some {}
    | some (.obj files) => withFiles? {} files
    | some _ => none
  pure (directories.foldl FileTree.makeDirectory { t with cwd := cwd.toList, byText := true })

end SassData.Description
