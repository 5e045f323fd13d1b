import SassData.Number.Binary64
import SassData.Text.Blank

namespace SassData.Numeral

structure Parts where
  whole : List Char
  fraction : List Char
  exponent : Int

def sign : List Char → Bool × List Char
  | '-' :: cs => (true, cs)
  | '+' :: cs => (false, cs)
  | cs => (false, cs)

def value (ds : List Char) : Nat :=
  Nat.ofDigitChars 10 ds 0

def exponent? : List Char → Option Int
  | [] => some 0
  | c :: cs =>
    if c = 'e' ∨ c = 'E' then
      let (negative, ds) := sign cs
      if ds ≠ [] ∧ ds.all Char.isDigit then
        some (if negative then -(value ds : Int) else value ds)
      else none
    else none

def parts? (cs : List Char) : Option Parts :=
  let whole := cs.takeWhile Char.isDigit
  let (fraction, rest) := match cs.dropWhile Char.isDigit with
    | '.' :: ds => (ds.takeWhile Char.isDigit, ds.dropWhile Char.isDigit)
    | ds => ([], ds)
  if whole = [] ∧ fraction = [] then none
  else (exponent? rest).map fun e => ⟨whole, fraction, e⟩

def Parts.toBinary64 (negative : Bool) (p : Parts) : Binary64 :=
  .ofDecimal negative (value (p.whole ++ p.fraction)) (p.exponent - p.fraction.length)

def read? (s : List Char) : Option Binary64 :=
  let (negative, cs) := sign s
  let word := String.ofList (cs.map Char.toLower)
  if word = "inf" ∨ word = "infinity" then some (.infinity negative)
  else if word = "nan" then some .nan
  else (parts? cs).map (Parts.toBinary64 negative)

def isGrouped : List Char → Bool
  | [] => false
  | cs => cs.head? != some '_' && cs.getLast? != some '_' && cs.contains '_' &&
      !(cs.zip cs.tail).contains ('_', '_')

def ofText? (s : String) : Option Binary64 :=
  let cs := s.toList
  match read? (Text.trimBy Text.isWhiteSpace cs) with
  | some x => some x
  | none => if isGrouped cs then read? (cs.filter (· ≠ '_')) else none

end SassData.Numeral
