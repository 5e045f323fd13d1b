import SassData.Import.SingleCall

namespace SassData.Import

def Importer.forCompiler (i : Importer) (t : FileTree) (host : Host) (specifier previous : String) :
    Traced (Except Failure (Option Imported)) :=
  (i.call t host ⟨false, false⟩ specifier previous).andThen fun call =>
    match call.returned with
    | .failed f => pure (.error f)
    | .nothing => pure (.ok none)
    | .imported r => do
      Traced.debug ("Imported " ++ specifier ++ " from " ++ r.file)
      pure (.ok (some r))

inductive Stylesheet
  | file (path : String)
  | source (text : String)
deriving DecidableEq

structure Arguments where
  stylesheet : Stylesheet
  importers : List Nat
  includePaths : List String
  outputStyle : String
deriving DecidableEq

structure Compilation where
  arguments : Arguments
  imports : List (Except Failure (Option Imported))

def Importer.forAll (i : Importer) (t : FileTree) (host : Host) :
    List (String × String) → Traced (List (Except Failure (Option Imported)))
  | [] => pure []
  | (specifier, previous) :: rest => do
    let r ← i.forCompiler t host specifier previous
    let rs ← i.forAll t host rest
    pure (r :: rs)

def Stylesheet.check (t : FileTree) : Stylesheet → Traced (Except Failure Unit)
  | .source _ => pure (.ok ())
  | .file path =>
    if t.pathExists path then do
      Traced.debug ("Compiling " ++ path)
      pure (.ok ())
    else pure (.error (.stylesheetNotFound path))

def compile (t : FileTree) (host : Host) (stylesheet : Stylesheet) (includePaths timeout : Json)
    (outputStyle : String) (imports : List (String × String)) :
    Traced (Except Failure Compilation) :=
  (stylesheet.check t).andThen fun _ =>
    Traced.proceed (Options.ofFields { includePaths := some includePaths, timeout := some timeout }) fun options => do
      let results ← (Importer.ofOptions options).forAll t host imports
      pure (.ok ⟨⟨stylesheet, [0], options.includePaths, outputStyle⟩, results⟩)

end SassData.Import
