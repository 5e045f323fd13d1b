import SassData.Text.Pieces
import SassData.Text.Quoted

/-!
What the host of a URL has to be, as far as reading a URL depends on it: brackets hold an address, and no character
stands for one that would end the host.
-/

namespace SassData.Path.Host

inductive Fault
  | brackets
  | futureAddress
  | notAnAddress (text : List Char)
  | versionFour
  | standsForDelimiter (host : List Char)
deriving DecidableEq

def isHexDigit (c : Char) : Bool :=
  c.isDigit || ('a' ≤ c && c ≤ 'f') || ('A' ≤ c && c ≤ 'F')

def isOctet (s : List Char) : Bool :=
  s ≠ [] && s.all Char.isDigit && s.length ≤ 3 && (s = ['0'] || s.head? ≠ some '0') &&
    Nat.ofDigitChars 10 s 0 ≤ 255

def isVersionFour (s : List Char) : Bool :=
  let octets := Text.pieces '.' s
  octets.length = 4 && octets.all isOctet

def isGroup (s : List Char) : Bool :=
  s ≠ [] && s.length ≤ 4 && s.all isHexDigit

def groups (s : List Char) : List (List Char) :=
  -- A final address of four decimal numbers counts as two groups.
  let gs := Text.pieces ':' s
  match gs.getLast? with
  | some g => if g.contains '.' && isVersionFour g then gs.dropLast ++ [['0'], ['0']] else gs
  | none => gs

def isSide (gs : List (List Char)) : Bool :=
  -- The gap may stand at the very end of the address.
  gs = [[]] || gs.all isGroup

def sideLength (gs : List (List Char)) : Nat :=
  if gs = [[]] then 0 else gs.length

def isVersionSix (s : List Char) : Bool :=
  let address := s.takeWhile (· ≠ '%')
  let zone := s.dropWhile (· ≠ '%')
  let gs := groups address
  let before := gs.take 1 ++ (gs.drop 1).takeWhile (· ≠ [])
  let after := gs.drop (before.length + 1)
  !s.contains '/' && (zone = [] || (zone.length > 1 && !(zone.drop 1).contains '%')) &&
    (if before.length + 1 < gs.length then
      isSide before && isSide after && sideLength before + sideLength after ≤ 7
    else gs.length = 8 && gs.all isGroup)

def isFutureAddress (s : List Char) : Bool :=
  let version := (s.drop 1).takeWhile isHexDigit
  match (s.drop 1).dropWhile isHexDigit with
  | '.' :: _ :: _ => version ≠ []
  | _ => false

def checkAddress (s : List Char) : Except Fault Unit :=
  if s.head? = some 'v' then
    if isFutureAddress s then .ok () else .error .futureAddress
  else if isVersionFour s then .error .versionFour
  else if isVersionSix s then .ok ()
  else .error (.notAnAddress s)

def withoutUser (s : List Char) : List Char :=
  (s.reverse.takeWhile (· ≠ '@')).reverse

def isPort : List Char → Bool
  | [] => true
  | c :: _ => c = ':'

/-- Checks a host that may be an address between brackets, which nothing stands before. Where the brackets belong to
the user only, the host up to its port has to be an address all the same. -/
def checkBrackets (s : List Char) : Except Fault Unit :=
  match s.dropWhile (· ≠ '[') with
  | [] => checkAddress (s.takeWhile (· ≠ ':'))
  | _ :: rest =>
    if s.head? = some '[' ∧ isPort ((rest.dropWhile (· ≠ ']')).drop 1) then
      checkAddress (rest.takeWhile (· ≠ ']'))
    else .error .brackets

def compatibleDelimiters : List Nat :=
  [0x2047, 0x2048, 0x2049, 0x2100, 0x2101, 0x2105, 0x2106, 0x2A74, 0xFE13, 0xFE16, 0xFE55, 0xFE56, 0xFE5F,
    0xFE6B, 0xFF03, 0xFF0F, 0xFF1A, 0xFF1F, 0xFF20]

def check (host : List Char) : Except Fault Unit := do
  if host.contains '[' != host.contains ']' then throw .brackets
  if host.contains '[' then checkBrackets (withoutUser host)
  if host.any fun c => compatibleDelimiters.contains c.toNat then throw (.standsForDelimiter host)

def Fault.message : Fault → String
  | .brackets => "Invalid IPv6 URL"
  | .futureAddress => "IPvFuture address is invalid"
  | .notAnAddress s =>
    Text.Quoted.quoted (String.ofList s) ++ " does not appear to be an IPv4 or IPv6 address"
  | .versionFour => "An IPv4 address cannot be in brackets"
  | .standsForDelimiter host =>
    "netloc '" ++ String.ofList host ++ "' contains invalid characters under NFKC normalization"

end SassData.Path.Host
