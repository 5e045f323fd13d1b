import SassData.Import.Compile

/-!
A session: a file system that changes, the switch for debugging lines, and importers by their names, on which one
step after the other is performed. Two importers are there from the start.
-/

namespace SassData.Import

inductive Handle
  | twoPhase (i : Importer)
  | singleCall (i : Importer)

namespace Handle

def className : Handle → String
  | .twoPhase _ => "DataImporter"
  | .singleCall _ => "LegacyDataImporter"

def asTwoPhase (operation : String) : Handle → Except Failure Importer
  | .twoPhase i => .ok i
  | h => .error (.noAttribute h.className operation)

def asSingleCall : Handle → Except Failure Importer
  | .singleCall i => .ok i
  | h => .error (.notCallable h.className)

def readyMade : List (String × Handle) :=
  [("data_importer", .twoPhase .plain), ("legacy_data_importer", .singleCall .plain)]

end Handle

structure Factory where
  isSingleCall : Bool
  replacement : Option (Option ExternalResolver) := none

def Factory.make (f : Factory) (fields : Options.Fields) : Except Failure Handle := do
  let options ← Options.ofFields fields
  let importer := Importer.ofOptions { options with external := f.replacement.getD options.external }
  pure (if f.isSingleCall then .singleCall importer else .twoPhase importer)

structure Session where
  tree : FileTree
  hostOf : FileTree → Host
  verbose : Bool := false
  importers : List (String × Handle) := Handle.readyMade

inductive Step
  | write (path : String) (m : DataModule)
  | remove (path : String)
  | makeDirectory (path : String)
  | changeDirectory (path : String)
  | setVerbose (on : Bool)
  | log (message : Json)
  | make (name : String) (factory : Factory) (fields : Options.Fields)
  | findBeside (specifier previous : String)
  | findIncluded (specifier : String) (includePaths : List String)
  | resolveAmong (includePaths : List String) (specifier previous : String)
  | resolveBy (fields : Options.Fields) (specifier previous : String)
  | canonicalize (importer specifier : String) (context : Option Members)
  | load (importer url : String) (child : Option ChildOutcome)
  | call (importer specifier previous : String) (waiting : Waiting) (child : Option ChildOutcome)
  | callForCompiler (importer specifier previous : String) (child : Option ChildOutcome)
  | compile (stylesheet : Stylesheet) (includePaths timeout : Json) (outputStyle : String)
      (imports : List (String × String)) (child : Option ChildOutcome)

inductive Result
  | done
  | made (className : String)
  | path (waited : Bool) (found : Json)
  | url (waited : Bool) (found : Option String)
  | loaded (r : Loaded)
  | called (c : Call)
  | files (r : Option Imported)
  | compilation (c : Compilation)

def Answer.wait {α : Type} (nothing : α) : Answer α → Except Failure (Bool × α)
  | .now r => r.map (false, ·)
  | .pending (some r) => r.map (true, ·)
  | .pending none => .ok (true, nothing)

def Result.ofPath (found : Option String) : Result :=
  .path false ((found.map Json.str).getD .null)

namespace Session

def importer (s : Session) (name : String) : Except Failure Handle :=
  match s.importers.lookup name with
  | some h => .ok h
  | none => .error (.unknownImporter name)

def twoPhase (s : Session) (name operation : String) : Except Failure Importer :=
  (s.importer name).bind (·.asTwoPhase operation)

def singleCall (s : Session) (name : String) : Except Failure Importer :=
  (s.importer name).bind Handle.asSingleCall

def host (s : Session) : Option ChildOutcome → Host
  -- How a process ends is what the step says, or what the files say.
  | some outcome => { s.hostOf s.tree with start := .always outcome }
  | none => s.hostOf s.tree

def resolve (s : Session) (strategy : Strategy) (specifier previous : String) :
    Traced (Except Failure Result) := do
  let answer ← strategy.resolve s.tree specifier previous
  pure ((answer.wait .null).map fun r => .path r.1 r.2)

def answer (s : Session) : Step → Traced (Except Failure Result)
  | .log message =>
    match message.toValue.display with
    | .ok text => do
      Traced.debug (String.ofList text)
      pure (.ok .done)
    | .error fault => pure (.error (.encoding fault))
  | .make _ factory fields => pure ((factory.make fields).map fun h => .made h.className)
  | .findBeside specifier previous => pure (.ok (.ofPath (beside? s.tree specifier previous)))
  | .findIncluded specifier includePaths =>
    pure ((included s.tree specifier includePaths).map .ofPath)
  | .resolveAmong includePaths specifier previous => s.resolve (.files includePaths) specifier previous
  | .resolveBy fields specifier previous =>
    Traced.proceed (Options.ofFields fields) fun options => s.resolve options.strategy specifier previous
  | .canonicalize name specifier fields =>
    Traced.proceed (s.twoPhase name "canonicalize") fun i =>
      Traced.proceed (fields.mapM Context.ofFields) fun context => do
        let answer ← i.canonicalize s.tree specifier (context.bind (·.containingUrl))
        pure ((answer.wait none).map fun r => .url r.1 r.2)
  | .load name url outcome =>
    Traced.proceed (s.twoPhase name "load") fun i => do
      let r ← i.load (s.host outcome) url
      pure (r.map .loaded)
  | .call name specifier previous waiting outcome =>
    Traced.proceed (s.singleCall name) fun i => do
      let r ← i.call s.tree (s.host outcome) waiting specifier previous
      pure (r.map .called)
  | .callForCompiler name specifier previous outcome =>
    Traced.proceed (s.singleCall name) fun i => do
      let r ← i.forCompiler s.tree (s.host outcome) specifier previous
      pure (r.map .files)
  | .compile stylesheet includePaths timeout outputStyle imports outcome => do
    let r ← Import.compile s.tree (s.host outcome) stylesheet includePaths timeout outputStyle imports
    pure (r.map .compilation)
  | _ => pure (.ok .done)

def next (s : Session) : Step → Session
  | .write path m => { s with tree := s.tree.write path m }
  | .remove path => { s with tree := s.tree.remove path }
  | .makeDirectory path => { s with tree := s.tree.makeDirectory path }
  | .changeDirectory path => { s with tree := s.tree.changeDirectory path }
  | .setVerbose on => { s with verbose := on }
  | .make name factory fields =>
    match factory.make fields with
    | .ok h => { s with importers := (name, h) :: s.importers }
    | .error _ => s
  | _ => s

end Session

structure Record where
  answer : Except Failure Result
  log : String
  asked : List (String × String)

def Session.record (s : Session) (step : Step) : Record :=
  let answer := s.answer step
  ⟨answer.value, logOf s.verbose answer.events, askedOf answer.events⟩

def Session.run (s : Session) : List Step → List Record
  | [] => []
  | step :: steps => s.record step :: (s.next step).run steps

end SassData.Import
