import SassData.Json.Basic
import SassData.Number.Shortest
import SassData.Text.Quoted

namespace SassData

inductive Charset
  | ascii
  | unicode
deriving DecidableEq

namespace Json

def unit (n : Nat) : List Char :=
  '\\' :: 'u' :: Text.Quoted.hex 4 n

def units (c : Char) : List Char :=
  let n := c.toNat
  if n < 0x10000 then unit n
  else unit (0xD800 + (n - 0x10000) / 0x400) ++ unit (0xDC00 + (n - 0x10000) % 0x400)

def escape (charset : Charset) (c : Char) : List Char :=
  if c = '"' then ['\\', '"']
  else if c = '\\' then ['\\', '\\']
  else if c = '\n' then ['\\', 'n']
  else if c = '\r' then ['\\', 'r']
  else if c = '\t' then ['\\', 't']
  else if c = '\x0c' then ['\\', 'f']
  else if c = '\x08' then ['\\', 'b']
  else if c.toNat < 0x20 then units c
  else if charset = .ascii ∧ 0x7E < c.toNat then units c
  else [c]

def writeString (charset : Charset) (s : List Char) : List Char :=
  '"' :: s.flatMap (escape charset) ++ ['"']

def writeInt (n : Int) : List Char :=
  if n < 0 then '-' :: Nat.toDigits 10 n.natAbs else Nat.toDigits 10 n.natAbs

def words : Binary64.Words :=
  ⟨['N', 'a', 'N'], ['I', 'n', 'f', 'i', 'n', 'i', 't', 'y']⟩

def writeBool (b : Bool) : List Char :=
  if b then ['t', 'r', 'u', 'e'] else ['f', 'a', 'l', 's', 'e']

mutual

def write (charset : Charset) : Json → List Char
  | .null => ['n', 'u', 'l', 'l']
  | .bool b => writeBool b
  | .int n => writeInt n
  | .float x => x.text words
  | .str s => writeString charset s.toList
  | .arr items => '[' :: writeItems charset items ++ [']']
  | .obj members => '{' :: writeMembers charset members ++ ['}']

def writeItems (charset : Charset) : List Json → List Char
  | [] => []
  | [v] => write charset v
  | v :: w :: vs => write charset v ++ ',' :: ' ' :: writeItems charset (w :: vs)

def writeMembers (charset : Charset) : List (String × Json) → List Char
  | [] => []
  | [(k, v)] => writeString charset k.toList ++ ':' :: ' ' :: write charset v
  | (k, v) :: m :: ms =>
    writeString charset k.toList ++ ':' :: ' ' :: write charset v ++ ',' :: ' ' :: writeMembers charset (m :: ms)

end

def render (charset : Charset) (v : Json) : String :=
  String.ofList (write charset v)

end Json

end SassData
