import SassData.Json.Basic
import SassData.Number.Numeral

/-!
The fields of records, given as JSON values. A field is read on its own, so that every faulty field of a record can
be reported.
-/

namespace SassData.Import.Field

inductive Fault
  | missing
  | notText
  | notTruthValue
  | unreadableTruthValue
  | notNumber
  | unreadableNumber
  | notPositive
  | notCallable
  | frozen
deriving DecidableEq

def Fault.name : Fault → String
  | .missing => "missing"
  | .notText => "string_type"
  | .notTruthValue => "bool_type"
  | .unreadableTruthValue => "bool_parsing"
  | .notNumber => "float_type"
  | .unreadableNumber => "float_parsing"
  | .notPositive => "greater_than"
  | .notCallable => "callable_type"
  | .frozen => "frozen_instance"

def faultOf {α : Type} (name : String) : Except Fault α → List (String × Fault)
  | .ok _ => []
  | .error fault => [(name, fault)]

def text : Json → Except Fault String
  | .str s => .ok s
  | _ => .error .notText

def text? : Json → Except Fault (Option String)
  | .null => .ok none
  | v => (text v).map some

def required (members : Members) (name : String) : Except Fault String :=
  match members.get? name with
  | none => .error .missing
  | some v => text v

def number? : Json → Except Fault (Option Binary64)
  | .null => .ok none
  | .bool b => .ok (some (if b then .ofDecimal false 1 0 else .zero false))
  | .int n =>
    match Binary64.ofInt? n with
    | some x => .ok (some x)
    | none => .error .notNumber
  | .float x => .ok (some x)
  | .str s =>
    match Numeral.ofText? s with
    | some x => .ok (some x)
    | none => .error .unreadableNumber
  | _ => .error .notNumber

def positive? (v : Json) : Except Fault (Option Binary64) := do
  match ← number? v with
  | some x => if x.isPositive then .ok (some x) else .error .notPositive
  | none => .ok none

def affirmations : List String := ["1", "t", "y", "on", "yes", "true"]

def negations : List String := ["0", "f", "n", "no", "off", "false"]

def truthOf (n : Int) : Except Fault Bool :=
  if n = 0 then .ok false else if n = 1 then .ok true else .error .unreadableTruthValue

def wordBound : Int := 0x8000000000000000

def truthValue : Json → Except Fault Bool
  | .bool b => .ok b
  | .int n => if -wordBound ≤ n ∧ n < wordBound then truthOf n else .error .notTruthValue
  | .float x =>
    match x.toInt? with
    | some n => if -wordBound < n ∧ n < wordBound then truthOf n else .error .notTruthValue
    | none => .error .notTruthValue
  | .str s =>
    let word := String.ofList (s.toList.map Char.toLower)
    if negations.contains word then .ok false
    else if affirmations.contains word then .ok true
    else .error .unreadableTruthValue
  | _ => .error .notTruthValue

end SassData.Import.Field
