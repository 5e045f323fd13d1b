import SassData.Import.Options

namespace SassData.Import

structure Command where
  interpreter : Interpreter
  path : String
  timeout : Option Binary64
deriving DecidableEq

def exportModule : String := "sass_py_importer.transform.import_to_json"

def Command.arguments (c : Command) : List String :=
  ["-m", exportModule, c.path]

inductive Event
  | spawned (command : Command)
  | asked (previous specifier : String)
  | debug (message : String)
deriving DecidableEq

@[ext]
structure Traced (α : Type) where
  value : α
  events : List Event

namespace Traced

instance : Monad Traced where
  pure a := ⟨a, []⟩
  bind x f := ⟨(f x.value).value, x.events ++ (f x.value).events⟩

def emit (e : Event) : Traced Unit :=
  ⟨(), [e]⟩

def debug (message : String) : Traced Unit :=
  emit (.debug message)

def proceed {α β : Type} (x : Except Failure α) (f : α → Traced (Except Failure β)) :
    Traced (Except Failure β) :=
  match x with
  | .ok a => f a
  | .error e => pure (.error e)

def andThen {α β : Type} (x : Traced (Except Failure α)) (f : α → Traced (Except Failure β)) :
    Traced (Except Failure β) := do
  proceed (← x) f

@[simp] theorem pure_value {α : Type} (a : α) : (pure a : Traced α).value = a := rfl

@[simp] theorem pure_events {α : Type} (a : α) : (pure a : Traced α).events = [] := rfl

@[simp] theorem bind_value {α β : Type} (x : Traced α) (f : α → Traced β) :
    (x >>= f).value = (f x.value).value := rfl

@[simp] theorem bind_events {α β : Type} (x : Traced α) (f : α → Traced β) :
    (x >>= f).events = x.events ++ (f x.value).events := rfl

instance : LawfulMonad Traced :=
  .mk' Traced (fun x => Traced.ext rfl (List.append_nil x.events)) (fun _ _ => rfl)
    (fun x f g => Traced.ext rfl (List.append_assoc x.events (f x.value).events (g (f x.value).value).events))

theorem bind_congr_value {α β : Type} {x : Traced α} {f g : α → Traced β} (h : f x.value = g x.value) :
    x >>= f = x >>= g := by
  apply Traced.ext
  · rw [bind_value, bind_value, h]
  · rw [bind_events, bind_events, h]

end Traced

def debugLine (message : String) : String :=
  "\x1b[94mDEBUG:\x1b[0m " ++ message ++ "\n"

def logOf (verbose : Bool) (events : List Event) : String :=
  if verbose then
    String.join (events.filterMap fun
      | .debug message => some (debugLine message)
      | _ => none)
  else ""

def askedOf (events : List Event) : List (String × String) :=
  events.filterMap fun
    | .asked previous specifier => some (previous, specifier)
    | _ => none

def spawnedOf (events : List Event) : List Command :=
  events.filterMap fun
    | .spawned command => some command
    | _ => none

end SassData.Import
