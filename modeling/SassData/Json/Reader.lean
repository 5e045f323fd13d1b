import SassData.Json.Basic
import SassData.Number.Numeral
import SassData.Text.Utf8

/-!
Reading JSON text. Beyond the standard, the words for infinity and for no value are numbers; an integer of too
many digits is refused. In an object the last of several values for one key counts.
-/

namespace SassData.Json

def isSpace (c : Char) : Bool :=
  c = ' ' || c = '\t' || c = '\n' || c = '\r'

def skip (cs : List Char) : List Char :=
  cs.dropWhile isSpace

def hexDigit? (c : Char) : Option Nat :=
  if '0' ≤ c ∧ c ≤ '9' then some (c.toNat - 0x30)
  else if 'a' ≤ c ∧ c ≤ 'f' then some (c.toNat - 0x57)
  else if 'A' ≤ c ∧ c ≤ 'F' then some (c.toNat - 0x37)
  else none

def readUnit : List Char → Option (Nat × List Char)
  | a :: b :: c :: d :: rest => do
    let a ← hexDigit? a
    let b ← hexDigit? b
    let c ← hexDigit? c
    let d ← hexDigit? d
    pure (((a * 16 + b) * 16 + c) * 16 + d, rest)
  | _ => none

def readLow : List Char → Option (Nat × List Char)
  | '\\' :: 'u' :: rest => do
    let (n, rest) ← readUnit rest
    if 0xDC00 ≤ n ∧ n ≤ 0xDFFF then pure (n, rest) else none
  | _ => none

def readUnits (cs : List Char) : Option (Char × List Char) := do
  let (n, rest) ← readUnit cs
  if 0xD800 ≤ n ∧ n ≤ 0xDBFF then
    match readLow rest with
    | some (low, rest) => pure (Char.ofNat (0x10000 + (n - 0xD800) * 0x400 + (low - 0xDC00)), rest)
    | none => pure (Text.Utf8.replacement, rest)
  else if 0xDC00 ≤ n ∧ n ≤ 0xDFFF then pure (Text.Utf8.replacement, rest)
  else pure (Char.ofNat n, rest)

def shortEscape? (c : Char) : Option Char :=
  if c = '"' ∨ c = '\\' ∨ c = '/' then some c
  else if c = 'b' then some '\x08'
  else if c = 'f' then some '\x0c'
  else if c = 'n' then some '\n'
  else if c = 'r' then some '\r'
  else if c = 't' then some '\t'
  else none

def readChar : List Char → Option (Option Char × List Char)
  | [] => none
  | '"' :: rest => some (none, rest)
  | '\\' :: 'u' :: rest => (readUnits rest).map fun r => (some r.1, r.2)
  | '\\' :: c :: rest => (shortEscape? c).map fun d => (some d, rest)
  | c :: rest => if c = '\\' ∨ c.toNat < 0x20 then none else some (some c, rest)

def readString : Nat → List Char → Option (List Char × List Char)
  | 0, _ => none
  | fuel + 1, cs => do
    let (c, rest) ← readChar cs
    match c with
    | none => pure ([], rest)
    | some c =>
      let (s, rest) ← readString fuel rest
      pure (c :: s, rest)

def readDigits (cs : List Char) : List Char × List Char :=
  (cs.takeWhile Char.isDigit, cs.dropWhile Char.isDigit)

def readWhole (cs : List Char) : Option (List Char × List Char) :=
  match readDigits cs with
  | ([], _) => none
  | ('0' :: _ :: _, _) => none
  | (ds, rest) => some (ds, rest)

def readFraction : List Char → Option (Option (List Char) × List Char)
  | '.' :: cs =>
    match readDigits cs with
    | ([], _) => none
    | (ds, rest) => some (some ds, rest)
  | cs => some (none, cs)

def readExponent : List Char → Option (Option Int × List Char)
  | c :: cs =>
    if c = 'e' ∨ c = 'E' then
      let (negative, cs) := Numeral.sign cs
      match readDigits cs with
      | ([], _) => none
      | (ds, rest) =>
        let n : Int := Numeral.value ds
        some (some (if negative then -n else n), rest)
    else some (none, c :: cs)
  | [] => some (none, [])

def readNumber (negative : Bool) (cs : List Char) : Option (Json × List Char) := do
  let (whole, rest) ← readWhole cs
  let (fraction, rest) ← readFraction rest
  let (exponent, rest) ← readExponent rest
  match fraction, exponent with
  | none, none =>
    if whole.length ≤ maxDigits then
      let n : Int := Numeral.value whole
      pure (.int (if negative then -n else n), rest)
    else none
  | _, _ =>
    let p : Numeral.Parts := ⟨whole, fraction.getD [], exponent.getD 0⟩
    pure (.float (p.toBinary64 negative), rest)

def afterWord : List Char → List Char → Option (List Char)
  | [], cs => some cs
  | w :: ws, c :: cs => if w = c then afterWord ws cs else none
  | _ :: _, [] => none

def readScalar (cs : List Char) : Option (Json × List Char) :=
  match cs with
  | 'n' :: rest => (afterWord ['u', 'l', 'l'] rest).map (.null, ·)
  | 't' :: rest => (afterWord ['r', 'u', 'e'] rest).map (.bool true, ·)
  | 'f' :: rest => (afterWord ['a', 'l', 's', 'e'] rest).map (.bool false, ·)
  | 'N' :: rest => (afterWord ['a', 'N'] rest).map (.float .nan, ·)
  | 'I' :: rest => (afterWord ['n', 'f', 'i', 'n', 'i', 't', 'y'] rest).map (.float (.infinity false), ·)
  | '-' :: 'I' :: rest => (afterWord ['n', 'f', 'i', 'n', 'i', 't', 'y'] rest).map (.float (.infinity true), ·)
  | '-' :: rest => readNumber true rest
  | rest => readNumber false rest

mutual

def readValue : Nat → List Char → Option (Json × List Char)
  | 0, _ => none
  | fuel + 1, cs =>
    match cs with
    | '"' :: rest => (readString fuel rest).map fun r => (.str (String.ofList r.1), r.2)
    | '[' :: rest =>
      match skip rest with
      | ']' :: rest => some (.arr [], rest)
      | rest => (readItems fuel rest).map fun r => (.arr r.1, r.2)
    | '{' :: rest =>
      match skip rest with
      | '}' :: rest => some (.obj [], rest)
      | rest => (readMembers fuel rest).map fun r => (.obj (Members.distinct r.1), r.2)
    | cs => readScalar cs

def readItems : Nat → List Char → Option (List Json × List Char)
  | 0, _ => none
  | fuel + 1, cs => do
    let (v, rest) ← readValue fuel cs
    match skip rest with
    | ']' :: rest => pure ([v], rest)
    | ',' :: rest =>
      let (vs, rest) ← readItems fuel (skip rest)
      pure (v :: vs, rest)
    | _ => none

def readMembers : Nat → List Char → Option (List (String × Json) × List Char)
  | 0, _ => none
  | fuel + 1, cs => do
    let (k, v, rest) ← match cs with
      | '"' :: rest => do
        let (k, rest) ← readString fuel rest
        match skip rest with
        | ':' :: rest => do
          let (v, rest) ← readValue fuel (skip rest)
          pure (String.ofList k, v, rest)
        | _ => none
      | _ => none
    match skip rest with
    | '}' :: rest => pure ([(k, v)], rest)
    | ',' :: rest =>
      let (ms, rest) ← readMembers fuel (skip rest)
      pure ((k, v) :: ms, rest)
    | _ => none

end

def read? (cs : List Char) : Option Json :=
  match readValue (2 * cs.length + 2) (skip cs) with
  | some (v, rest) => if skip rest = [] then some v else none
  | none => none

def parse? (s : String) : Option Json :=
  read? s.toList

mutual

/-- The mark of the first list or object, in the order of reading, that stands inside more than `room` others. -/
def deepValue : Nat → Nat → List Char → Option Char
  | 0, _, _ => none
  | fuel + 1, room, cs =>
    match cs, room with
    | '[' :: _, 0 => some '['
    | '{' :: _, 0 => some '{'
    | '[' :: rest, room + 1 => deepItems fuel room (skip rest)
    | '{' :: rest, room + 1 => deepMembers fuel room (skip rest)
    | _, _ => none

def deepItems : Nat → Nat → List Char → Option Char
  | 0, _, _ => none
  | fuel + 1, room, cs =>
    deepValue fuel room cs <|> do
      let (_, rest) ← readValue fuel cs
      match skip rest with
      | ',' :: rest => deepItems fuel room (skip rest)
      | _ => none

def deepMembers : Nat → Nat → List Char → Option Char
  | 0, _, _ => none
  | fuel + 1, room, cs =>
    match cs with
    | '"' :: rest => do
      let (_, rest) ← readString fuel rest
      match skip rest with
      | ':' :: rest =>
        deepValue fuel room (skip rest) <|> do
          let (_, rest) ← readValue fuel (skip rest)
          match skip rest with
          | ',' :: rest => deepMembers fuel room (skip rest)
          | _ => none
      | _ => none
    | _ => none

end

inductive Refusal
  | malformed
  | tooDeep (mark : Char)
deriving DecidableEq

def load (room : Nat) (s : String) : Except Refusal Json :=
  match deepValue (2 * s.length + 2) room (skip s.toList), parse? s with
  | some mark, _ => .error (.tooDeep mark)
  | none, some v => .ok v
  | none, none => .error .malformed

end SassData.Json
