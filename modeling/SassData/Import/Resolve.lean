import SassData.FileTree
import SassData.Import.Traced

namespace SassData.Import

def isDataModule (specifier : String) : Bool :=
  Path.isDataModule specifier.toList

def candidate (t : FileTree) (directory specifier : String) : String :=
  t.absolute (String.ofList (Path.join directory.toList specifier.toList))

def existing? (t : FileTree) (directory specifier : String) : Option String :=
  let path := candidate t directory specifier
  if isDataModule path ∧ t.isFile path then some path else none

def directoryOf (file : String) : String :=
  String.ofList (Path.directory file.toList)

def beside? (t : FileTree) (specifier previous : String) : Option String :=
  existing? t (directoryOf previous) specifier

def notFound (specifier : String) (includePaths : List String) : Failure :=
  .importError (.make (.of .resolutionNotFound) (some
    ("Unable to find \"" ++ specifier ++ "\" from the following path(s): " ++
      String.intercalate ", " includePaths ++ ". Check include paths.")))

/-- The first match in the include paths. Without include paths there is nothing to be found; with them a miss is a
failure. -/
def included (t : FileTree) (specifier : String) (includePaths : List String) :
    Except Failure (Option String) :=
  if includePaths = [] then .ok none
  else match includePaths.findSome? fun root => existing? t root specifier with
    | some path => .ok (some path)
    | none => .error (notFound specifier includePaths)

def resolveFiles (t : FileTree) (includePaths : List String) (specifier previous : String) :
    Traced (Except Failure (Option String)) :=
  match beside? t specifier previous with
  | some path => pure (.ok (some path))
  | none => do
    Traced.debug (specifier ++ " not found next to " ++ previous ++ ", trying include paths")
    pure (included t specifier includePaths)

def resolveExternal (t : FileTree) (external : ExternalResolver) (specifier previous : String) :
    Traced (Completion Json) :=
  match beside? t specifier previous with
  | some path => pure (some (.ok (.str path)))
  | none => do
    Traced.debug (specifier ++ " not found next to " ++ previous ++ ", asking external resolver")
    Traced.emit (.asked previous specifier)
    pure (Act.outcome (external previous specifier))

inductive Strategy
  | files (includePaths : List String)
  | external (resolver : ExternalResolver)

def Options.strategy (o : Options) : Strategy :=
  match o.external with
  | some r => .external r
  | none => .files o.includePaths

inductive Answer (α : Type)
  | now (result : Except Failure α)
  | pending (completion : Completion α)

def Strategy.resolve (s : Strategy) (t : FileTree) (specifier previous : String) :
    Traced (Answer Json) :=
  match s with
  | .files includePaths => do
    let r ← resolveFiles t includePaths specifier previous
    pure (.now (r.map fun path? => (path?.map Json.str).getD .null))
  | .external resolver => do
    let c ← resolveExternal t resolver specifier previous
    pure (.pending c)

end SassData.Import
