import SassData.Import.Load
import SassData.Import.Records
import SassData.Import.Resolve

namespace SassData.Import

structure Importer where
  strategy : Strategy
  options : Options

def Importer.ofOptions (options : Options) : Importer :=
  ⟨options.strategy, options⟩

def Importer.plain : Importer :=
  ⟨.files [], {}⟩

def urlOfName (byteOf : Char → Option UInt8) (path : String) : Except Failure String :=
  ((Path.Url.ofName byteOf path.toList).map String.ofList).mapError .url

def urlOfPath (path : String) : Except Failure String :=
  urlOfName (fun _ => none) path

def pathOfUrl (url : String) : Except Failure String :=
  ((Path.Url.toPath url.toList).map String.ofList).mapError .url

def urlOfResult (t : FileTree) : Json → Except Failure (Option String)
  | .null => .ok none
  | .str path => (urlOfName t.byteOf path).map some
  | v => .error (.notPath v.typeName)

def Answer.toUrl (t : FileTree) : Answer Json → Answer (Option String)
  | .now result => .now (result.bind (urlOfResult t))
  | .pending completion => .pending (completion.map fun result => result.bind (urlOfResult t))

namespace Importer

def canonicalize (i : Importer) (t : FileTree) (specifier : String) (containingUrl : Option String) :
    Traced (Answer (Option String)) :=
  if !isDataModule specifier then pure (.now (.ok none))
  else match containingUrl with
    | none => pure (.now (.ok none))
    | some url =>
      match pathOfUrl url with
      | .error e => pure (.now (.error e))
      | .ok previous => do
        let answer ← i.strategy.resolve t specifier previous
        pure (answer.toUrl t)

def load (i : Importer) (host : Host) (url : String) : Traced (Except Failure Loaded) :=
  Traced.proceed (pathOfUrl url) fun path => do
    let source ← loadSource host i.options path
    pure (source.map fun contents => ⟨contents, scss⟩)

end Importer

end SassData.Import
