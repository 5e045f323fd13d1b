import SassData.Path.Basic
import SassData.Path.Host
import SassData.Text.Utf8
import SassData.Text.Quoted

namespace SassData.Path.Url

inductive Fault
  | relativePath
  | host (fault : Host.Fault)
deriving DecidableEq

def isPlain (b : UInt8) : Bool :=
  let c := Char.ofNat b.toNat
  c.isAlphanum || c = '_' || c = '.' || c = '-' || c = '~' || c = '/'

def hexDigit (n : Nat) : Char :=
  if n < 10 then Char.ofNat (0x30 + n) else Char.ofNat (0x37 + n)

def encodeByte (b : UInt8) : List Char :=
  if isPlain b then [Char.ofNat b.toNat]
  else ['%', hexDigit (b.toNat / 16), hexDigit (b.toNat % 16)]

def encode (s : List Char) : List Char :=
  (Text.Utf8.encode s).flatMap encodeByte

def spelling (p : List Char) : List Char :=
  anchor p ++ Text.glue ['/'] ((parts p).filter fun c => c ≠ [] ∧ c ≠ here)

def fileScheme : List Char := ['f', 'i', 'l', 'e', ':', '/', '/']

def ofName (byteOf : Char → Option UInt8) (p : List Char) : Except Fault (List Char) :=
  if isAbsolute p then
    .ok (fileScheme ++ (spelling p).flatMap fun c => ((byteOf c).map encodeByte).getD (encode [c]))
  else .error .relativePath

def ofPath (p : List Char) : Except Fault (List Char) :=
  ofName (fun _ => none) p

def hexValue? (c : Char) : Option Nat :=
  if '0' ≤ c ∧ c ≤ '9' then some (c.toNat - 0x30)
  else if 'a' ≤ c ∧ c ≤ 'f' then some (c.toNat - 0x57)
  else if 'A' ≤ c ∧ c ≤ 'F' then some (c.toNat - 0x37)
  else none

def byte? (a b : Char) : Option UInt8 := do
  let a ← hexValue? a
  let b ← hexValue? b
  pure (UInt8.ofNat (a * 16 + b))

def bytes : List Char → List UInt8
  | '%' :: a :: b :: cs =>
    match byte? a b with
    | some x => x :: bytes cs
    | none => 0x25 :: bytes (a :: b :: cs)
  | c :: cs => UInt8.ofNat c.toNat :: bytes cs
  | [] => []

/-- Undoes the percent-encoding. Each stretch of ASCII is read as bytes on its own, and other characters stand
for themselves; `stretch` holds the stretch so far in reverse. -/
def decodeFrom (stretch : List Char) : List Char → List Char
  | [] => Text.Utf8.decode (bytes stretch.reverse)
  | c :: cs =>
    if c.toNat < 0x80 then decodeFrom (c :: stretch) cs
    else Text.Utf8.decode (bytes stretch.reverse) ++ c :: decodeFrom [] cs

def decode (s : List Char) : List Char :=
  decodeFrom [] s

def isSchemeChar (c : Char) : Bool :=
  c.isAlphanum || c = '+' || c = '-' || c = '.'

def scheme? (url : List Char) : Option (List Char × List Char) :=
  let name := url.takeWhile (· ≠ ':')
  match url.dropWhile (· ≠ ':'), name with
  | _ :: rest, c :: _ =>
    if c.isAlpha && name.all isSchemeChar then some (name.map Char.toLower, rest) else none
  | _, _ => none

def cleaned (url : List Char) : List Char :=
  (url.dropWhile (·.toNat ≤ 0x20)).filter fun c => c ≠ '\t' ∧ c ≠ '\r' ∧ c ≠ '\n'

def host : List Char → Option (List Char) × List Char
  | '/' :: '/' :: rest =>
    let isEnd (c : Char) : Bool := c = '/' || c = '?' || c = '#'
    (some (rest.takeWhile (!isEnd ·)), rest.dropWhile (!isEnd ·))
  | rest => (none, rest)

def path (rest : List Char) : List Char :=
  (rest.takeWhile (· ≠ '#')).takeWhile (· ≠ '?')

def toPath (url : List Char) : Except Fault (List Char) := do
  let text := cleaned url
  let (scheme, rest) := match scheme? text with
    | some (scheme, rest) => (scheme, rest)
    | none => ([], text)
  let (host, rest) := host rest
  Host.check (host.getD []) |>.mapError .host
  pure (if scheme = ['f', 'i', 'l', 'e'] then decode (path rest) else url)

end SassData.Path.Url
