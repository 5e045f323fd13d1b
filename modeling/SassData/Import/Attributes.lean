import SassData.Import.Options

namespace SassData.Import

structure View where
  includePaths : List Json
  timeout : Option String
  interpreter : Json
  hasExternal : Bool

namespace View

def attributeOf (table : Members) (name : String) : Except Failure Json :=
  match table.get? name with
  | some v => .ok v
  | none => .error (.noAttribute optionsClass name)

def elements : Json → Except Failure (List Json)
  | .arr items => .ok items
  | .str s => .ok (s.toList.map fun c => .str (String.singleton c))
  | .obj members => .ok (members.map fun m => .str m.1)
  | v => .error (.notIterable v.typeName)

def sourceText? : Json → Except Failure (Option String)
  | .null => .ok none
  | v => (v.toValue.source.map fun s => some (String.ofList s)).mapError .encoding

def ofTable : Json → Except Failure View
  | .obj table => do
    let interpreter ← attributeOf table "python_executable"
    let includePaths ← (attributeOf table "include_paths").bind elements
    let timeout ← (attributeOf table "timeout").bind sourceText?
    let external ← attributeOf table "resolve_request"
    pure ⟨includePaths, timeout, interpreter, external.typeName ≠ "NoneType"⟩
  | v => .error (.notDictionary v.typeName)

end View

structure Assignment where
  faults : List (String × Field.Fault)
  after : View

namespace Options

def isPrivate (name : String) : Bool :=
  name.toList.head? = some '_'

def view (o : Options) : View :=
  ⟨o.includePaths.map .str, o.timeout.map Binary64.plainText, .str o.interpreter.name, o.external.isSome⟩

/-- What comes of giving an attribute a value. Options do not change: every name but a private one has the fault of
being frozen. A private name has no fault and no effect, unless it is taken. The table of all attributes is the only
one that can be replaced. -/
def assign (o : Options) (name value : Json) : Except Failure Assignment :=
  match name with
  | .str name =>
    if !isPrivate name then .ok ⟨[(name, .frozen)], o.view⟩
    else if name = "__class__" then .error (.notClass value.typeName)
    else if name = "__weakref__" then .error (.notWritable name)
    else if name = "__fields_set__" then .error (.noSetter name)
    else if name = "__dict__" then (View.ofTable value).map (⟨[], ·⟩)
    else .ok ⟨[], o.view⟩
  | name => .error (.notName name.typeName)

end Options

end SassData.Import
