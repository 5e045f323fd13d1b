import SassData.Text.Printable

namespace SassData.Text.Quoted

def hex : Nat → Nat → List Char
  | 0, _ => []
  | width + 1, n => hex width (n / 16) ++ [Nat.digitChar (n % 16)]

def escapeCode (n : Nat) : List Char :=
  if n < 0x100 then '\\' :: 'x' :: hex 2 n
  else if n < 0x10000 then '\\' :: 'u' :: hex 4 n
  else '\\' :: 'U' :: hex 8 n

def escape (mark c : Char) : List Char :=
  if c = mark ∨ c = '\\' then ['\\', c]
  else if c = '\t' then ['\\', 't']
  else if c = '\n' then ['\\', 'n']
  else if c = '\r' then ['\\', 'r']
  else if Printable.isPrintable c then [c]
  else escapeCode c.toNat

def markFor (s : List Char) : Char :=
  if '\x27' ∈ s ∧ '"' ∉ s then '"' else '\x27'

def quote (s : List Char) : List Char :=
  let mark := markFor s
  mark :: s.flatMap (escape mark) ++ [mark]

def quoted (s : String) : String :=
  String.ofList (quote s.toList)

end SassData.Text.Quoted
