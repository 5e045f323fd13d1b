import SassData.Import.Importer

namespace SassData.Import

inductive Outcome
  | nothing
  | imported (r : Imported)
  | failed (f : Failure)
deriving DecidableEq

structure Call where
  returned : Outcome
  handedOver : List Outcome
deriving DecidableEq

def Outcome.ofFailure : Failure → Except Failure Outcome
  | .importError e => .ok (.failed (.importError e))
  | f => .error f

def Importer.loadCanonical (i : Importer) (host : Host) :
    Option String → Traced (Except Failure Outcome)
  | none => pure (.ok .nothing)
  | some url => do
    match ← i.load host url with
    | .error f => pure (Outcome.ofFailure f)
    | .ok loaded =>
      pure ((pathOfUrl url).map fun file => .imported ⟨file, loaded.contents⟩)

/-- How a call that has to wait is made: whether events are waited for where it is made, and whether there is someone
to hand the result over to. -/
structure Waiting where
  inLoop : Bool
  handOver : Bool
deriving DecidableEq

def Waiting.stopped (w : Waiting) (f : Failure) : Except Failure (List Outcome) :=
  -- What ends the loop reaches those who run it; anything else is lost.
  match f with
  | .thrown e =>
    if w.inLoop ∧ e.stopsLoop then .error f else .ok []
  | _ => .ok []

def Importer.complete (i : Importer) (host : Host) (w : Waiting) :
    Completion (Option String) → Traced (Except Failure (List Outcome))
  | none => pure (.ok [])
  | some (.error f) =>
    if f.isOrdinary then pure (.ok (if w.handOver then [.failed f] else []))
    else pure (w.stopped f)
  | some (.ok url?) => do
    match ← i.loadCanonical host url? with
    | .ok outcome => pure (.ok (if w.handOver then [outcome] else []))
    | .error f => pure (w.stopped f)

def Importer.call (i : Importer) (t : FileTree) (host : Host) (w : Waiting) (specifier previous : String) :
    Traced (Except Failure Call) :=
  Traced.proceed (urlOfName t.byteOf (t.absolute previous)) fun containing => do
    match ← i.canonicalize t specifier (some containing) with
    | .now (.error f) => pure ((Outcome.ofFailure f).map fun o => ⟨o, []⟩)
    | .now (.ok url?) => do
      let outcome ← i.loadCanonical host url?
      pure (outcome.map fun o => ⟨o, []⟩)
    | .pending completion => do
      let handedOver ← i.complete host w completion
      pure (handedOver.map fun os => ⟨.nothing, os⟩)

end SassData.Import
