import SassData.DataModule.Basic
import SassData.Json.Writer
import SassData.Text.Utf8

namespace SassData.Value

inductive Fault
  | unsupported (typeName : String)
  | key (typeName : String)
  | outOfRange
  | circular
  | tooManyDigits
  | tooDeep (place : String)
deriving DecidableEq

def Fault.thrown : Fault → Thrown
  | .unsupported name => .ofClass "TypeError" ("Object of type " ++ name ++ " is not JSON serializable")
  | .key name => .ofClass "TypeError" ("keys must be str, int, float, bool or None, not " ++ name)
  | .outOfRange => .ofClass "ValueError" "Out of range float values are not JSON compliant"
  | .circular => .ofClass "ValueError" "Circular reference detected"
  | .tooManyDigits =>
    .ofClass "ValueError"
      ("Exceeds the limit (4300 digits) for integer string conversion; " ++
        "use sys.set_int_max_str_digits() to increase the limit")
  | .tooDeep place => .ofClass "RecursionError" ("maximum recursion depth exceeded" ++ place)

def limited (n : Int) : Except Fault Int :=
  if fitsDigits n then .ok n else .error .tooManyDigits

def intText (n : Int) : Except Fault (List Char) :=
  (limited n).map Json.writeInt

/-- How values are treated: which text a key has, whether numbers have to be finite, how many calls a value takes inside
one another, those for what stands in it apart, and where it is said to be too deep. -/
structure Rules where
  key : Value → Except Fault (List Char)
  finite : Bool
  calls : Value → Nat
  place : Value → String

def Rules.enter (rules : Rules) (room : Nat) (v : Value) : Except Fault Nat :=
  if rules.calls v ≤ room then .ok (room - rules.calls v) else .error (.tooDeep (rules.place v))

mutual

def toJson (rules : Rules) (room : Nat) (v : Value) : Except Fault Json := do
  let room ← rules.enter room v
  match v with
  | .null => .ok .null
  | .bool b => .ok (.bool b)
  | .int n => (limited n).map .int
  | .float x => if rules.finite && !x.isFinite then .error .outOfRange else .ok (.float x)
  | .str s => .ok (.str s)
  | .list items => (itemsToJson rules room items).map .arr
  | .tuple items => (itemsToJson rules room items).map .arr
  | .dict entries => (entriesToJson rules room entries).map .obj
  | .enclosing _ => .error .circular
  | v => .error (.unsupported v.typeName)

def itemsToJson (rules : Rules) (room : Nat) : List Value → Except Fault (List Json)
  | [] => .ok []
  | v :: vs => do
    let j ← toJson rules room v
    let js ← itemsToJson rules room vs
    pure (j :: js)

def entriesToJson (rules : Rules) (room : Nat) : List (Value × Value) → Except Fault (List (String × Json))
  | [] => .ok []
  | (k, v) :: es => do
    let k ← rules.key k
    let j ← toJson rules room v
    let ms ← entriesToJson rules room es
    pure ((String.ofList k, j) :: ms)

end

def jsonKey : Value → Except Fault (List Char)
  | .null => .ok ['n', 'u', 'l', 'l']
  | .bool b => .ok (Json.writeBool b)
  | .int n => intText n
  | .float x => if x.isFinite then .ok (x.text Json.words) else .error .outOfRange
  | .str s => .ok s.toList
  | v => .error (.key v.typeName)

def exportCalls : Value → Nat
  -- A value that JSON cannot hold takes two calls: for asking and for saying so.
  | .list _ | .tuple _ | .dict _ | .enclosing _ => 1
  | .bytes _ | .foreign _ | .coroutine .. => 2
  | _ => 0

def exportPlace (v : Value) : String :=
  if exportCalls v = 2 then " while calling a Python object" else " while encoding a JSON object"

def exportRules : Rules := ⟨jsonKey, true, exportCalls, exportPlace⟩

def byteText (mark : Char) (b : UInt8) : List Char :=
  let c := Char.ofNat b.toNat
  if c = mark ∨ c = '\\' then ['\\', c]
  else if c = '\t' then ['\\', 't']
  else if c = '\n' then ['\\', 'n']
  else if c = '\r' then ['\\', 'r']
  else if 0x20 ≤ b.toNat ∧ b.toNat < 0x7F then [c]
  else '\\' :: 'x' :: Text.Quoted.hex 2 b.toNat

mutual

def source : Value → Except Fault (List Char)
  | .null => .ok ['N', 'o', 'n', 'e']
  | .bool b => .ok (if b then ['T', 'r', 'u', 'e'] else ['F', 'a', 'l', 's', 'e'])
  | .int n => intText n
  | .float x => .ok (x.text Binary64.plainWords)
  | .str s => .ok (Text.Quoted.quote s.toList)
  | .bytes s =>
    let mark := Text.Quoted.markFor s.toList
    .ok ('b' :: mark :: (Text.Utf8.encode s.toList).flatMap (byteText mark) ++ [mark])
  | .list items => (sourceItems items).map fun ts => '[' :: Text.glue [',', ' '] ts ++ [']']
  | .tuple items =>
    (sourceItems items).map fun
      | [t] => '(' :: t ++ [',', ')']
      | ts => '(' :: Text.glue [',', ' '] ts ++ [')']
  | .dict entries => (sourceEntries entries).map fun ts => '{' :: Text.glue [',', ' '] ts ++ ['}']
  | v => .ok ('<' :: v.typeName.toList ++ ['>'])

def sourceItems : List Value → Except Fault (List (List Char))
  | [] => .ok []
  | v :: vs => do
    let t ← source v
    let ts ← sourceItems vs
    pure (t :: ts)

def sourceEntries : List (Value × Value) → Except Fault (List (List Char))
  | [] => .ok []
  | (k, v) :: es => do
    let k ← source k
    let t ← source v
    let ts ← sourceEntries es
    pure ((k ++ ':' :: ' ' :: t) :: ts)

end

def display : Value → Except Fault (List Char)
  | .str s => .ok s.toList
  | v => source v

def displayCalls (atom : Value → Nat) : Value → Nat
  | .list _ | .tuple _ => 4
  | .dict [] => 3
  | .dict (_ :: _) => 2
  | v => atom v

def displayRules (atom : Value → Nat) : Rules :=
  ⟨display, false, displayCalls atom, fun _ => " in __instancecheck__"⟩

end SassData.Value

namespace SassData.Json

mutual

def toValue : Json → Value
  | .null => .null
  | .bool b => .bool b
  | .int n => .int n
  | .float x => .float x
  | .str s => .str s
  | .arr items => .list (itemsToValue items)
  | .obj members => .dict (membersToValue members)

def itemsToValue : List Json → List Value
  | [] => []
  | v :: vs => toValue v :: itemsToValue vs

def membersToValue : List (String × Json) → List (Value × Value)
  | [] => []
  | (k, v) :: ms => (.str k, toValue v) :: membersToValue ms

end

def isFalsy : Json → Bool
  | .null => true
  | .bool b => !b
  | .int n => n = 0
  | .float x => x.isZero
  | .str s => s = ""
  | .arr items => items.isEmpty
  | .obj members => members.isEmpty

def typeName (v : Json) : String :=
  v.toValue.typeName

end SassData.Json
