import SassData.DataModule.Thrown
import SassData.Number.Binary64
import SassData.Path.Basic

/-!
Data modules, of which only what an import can observe is kept: what they print, the exception they end with, and the
value of the name `default`.
-/

namespace SassData

inductive Print
  | text (s : String)
  | whereabouts
deriving DecidableEq

/-- A value that a module may export. A coroutine prints, and then throws or gives a value. -/
inductive Value
  | null
  | bool (b : Bool)
  | int (n : Int)
  | float (x : Binary64)
  | str (s : String)
  | bytes (s : String)
  | list (items : List Value)
  | tuple (items : List Value)
  | dict (entries : List (Value × Value))
  | foreign (typeName : String)
  | enclosing (level : Nat)
  | coroutine (prints : List Print) (thrown : Option Thrown) (result : Value)
deriving Inhabited

@[induction_eliminator]
theorem Value.induct {P : Value → Prop} (null : P .null) (bool : ∀ b, P (.bool b)) (int : ∀ n, P (.int n))
    (float : ∀ x, P (.float x)) (str : ∀ s, P (.str s)) (bytes : ∀ s, P (.bytes s))
    (list : ∀ items, (∀ v ∈ items, P v) → P (.list items))
    (tuple : ∀ items, (∀ v ∈ items, P v) → P (.tuple items))
    (dict : ∀ entries, (∀ e ∈ entries, P e.1 ∧ P e.2) → P (.dict entries))
    (foreign : ∀ name, P (.foreign name)) (enclosing : ∀ level, P (.enclosing level))
    (coroutine : ∀ prints thrown result, P result → P (.coroutine prints thrown result)) (v : Value) : P v :=
  @Value.rec P (fun items => ∀ v ∈ items, P v) (fun entries => ∀ e ∈ entries, P e.1 ∧ P e.2)
    (fun e => P e.1 ∧ P e.2) null bool int float str bytes list tuple dict foreign enclosing coroutine
    nofun (fun _ _ hv hvs => List.forall_mem_cons.mpr ⟨hv, hvs⟩)
    nofun (fun _ _ he hes => List.forall_mem_cons.mpr ⟨he, hes⟩) (fun _ _ hk hv => ⟨hk, hv⟩) v

def Value.typeName : Value → String
  | .null => "NoneType"
  | .bool _ => "bool"
  | .int _ => "int"
  | .float _ => "float"
  | .str _ => "str"
  | .bytes _ => "bytes"
  | .list _ => "list"
  | .tuple _ => "tuple"
  | .dict _ => "dict"
  | .foreign name => name
  | .enclosing _ => "list"
  | .coroutine .. => "coroutine"

structure DataModule where
  prints : List Print := []
  thrown : Option Thrown := none
  exported : Option Value := none
deriving Inhabited

def Value.prints : Value → List Print
  | .coroutine prints _ _ => prints
  | _ => []

def DataModule.performed (m : DataModule) : List Print :=
  -- A value is waited for only after the module has run without an exception.
  match m.thrown, m.exported with
  | none, some v => m.prints ++ v.prints
  | _, _ => m.prints

mutual

def Value.coroutines : Value → Nat
  -- What a coroutine gives stands nowhere before it is waited for.
  | .list items => coroutinesInItems items
  | .tuple items => coroutinesInItems items
  | .dict entries => coroutinesInEntries entries
  | .coroutine .. => 1
  | _ => 0

def Value.coroutinesInItems : List Value → Nat
  | [] => 0
  | v :: vs => coroutines v + coroutinesInItems vs

def Value.coroutinesInEntries : List (Value × Value) → Nat
  | [] => 0
  | (k, v) :: es => coroutines k + coroutines v + coroutinesInEntries es

end

def DataModule.forgotten (m : DataModule) : Nat :=
  match m.thrown, m.exported with
  | none, some (.coroutine _ none result) => result.coroutines
  | none, some (.coroutine _ (some _) _) => 0
  | _, some v => v.coroutines
  | _, none => 0

def Print.shown (path : String) : Print → String
  | .text s => s
  | .whereabouts =>
    Thrown.moduleName ++ " " ++ path ++ " " ++ String.ofList (Path.directory path.toList) ++ " True\n"

def Print.all (path : String) (prints : List Print) : String :=
  String.join (prints.map (Print.shown path))

end SassData
