import SassData.Number.Binary64

/-!
The text of a double-precision number: the fewest digits that are rounded back to it, the nearest of those, with
a point where the decimal exponent lies from -4 to 15 and with an exponent elsewhere.
-/

namespace SassData.Binary64

structure Digits where
  digits : List Char
  point : Int

/-- A grid of decimals: a quarter of the last binary place of a number is `unit / scale` steps of it. -/
structure Grid where
  unit : Nat
  scale : Nat

def grid (exponent last : Int) : Grid where
  unit := Nat.pow 2 (exponent - 2).toNat * Nat.pow 10 (-last).toNat
  scale := Nat.pow 2 (2 - exponent).toNat * Nat.pow 10 last.toNat

def onGrid (mantissa : Nat) (exponent last : Int) : Option Nat :=
  let g := grid exponent last
  let value := 4 * mantissa * g.unit
  let below := if mantissa = Nat.pow 2 52 ∧ minExponent < exponent then 1 else 2
  let low := (4 * mantissa - below) * g.unit
  let high := (4 * mantissa + 2) * g.unit
  let inside (c : Nat) : Bool :=
    if mantissa % 2 = 0 then low ≤ c * g.scale && c * g.scale ≤ high
    else low < c * g.scale && c * g.scale < high
  let c := value / g.scale
  match inside c, inside (c + 1) with
  | false, false => none
  | true, false => some c
  | false, true => some (c + 1)
  | true, true =>
    let down := value - c * g.scale
    let up := (c + 1) * g.scale - value
    if down < up then some c else if up < down then some (c + 1) else some (c + c % 2)

def pointOf (mantissa : Nat) (exponent : Int) : Int :=
  let num := mantissa * Nat.pow 2 exponent.toNat
  let den := Nat.pow 2 (-exponent).toNat
  let guess : Int := (Nat.toDigits 10 num).length - (Nat.toDigits 10 den).length
  let reached := if 0 ≤ guess then den * Nat.pow 10 guess.toNat ≤ num else den ≤ num * Nat.pow 10 (-guess).toNat
  if reached then guess + 1 else guess

def significant (n : Nat) : List Char :=
  match ((Nat.toDigits 10 n).reverse.dropWhile (· = '0')).reverse with
  | [] => ['0']
  | ds => ds

def shortest (mantissa : Nat) (exponent : Int) : Digits :=
  let point := pointOf mantissa exponent
  let attempt (count : Nat) : Option Digits :=
    let last := point - count
    (onGrid mantissa exponent last).map fun c =>
      ⟨significant c, last + (Nat.toDigits 10 c).length⟩
  ((List.range' 1 17).findSome? attempt).getD ⟨['0'], 1⟩

def padded (n : Nat) : List Char :=
  if n < 10 then '0' :: Nat.toDigits 10 n else Nat.toDigits 10 n

def positional (d : Digits) : List Char :=
  let n := d.point.toNat
  if d.point ≤ 0 then '0' :: '.' :: (List.replicate (-d.point).toNat '0' ++ d.digits)
  else if d.digits.length ≤ n then
    d.digits ++ List.replicate (n - d.digits.length) '0' ++ ['.', '0']
  else d.digits.take n ++ '.' :: d.digits.drop n

def scientific (d : Digits) : List Char :=
  let e := d.point - 1
  let fraction := if d.digits.length ≤ 1 then [] else '.' :: d.digits.drop 1
  d.digits.take 1 ++ fraction ++ 'e' :: (if e < 0 then '-' else '+') :: padded e.natAbs

def layout (d : Digits) : List Char :=
  if -4 < d.point ∧ d.point ≤ 16 then positional d else scientific d

structure Words where
  nan : List Char
  infinity : List Char

def text (words : Words) : Binary64 → List Char
  | .nan => words.nan
  | .infinity negative => if negative then '-' :: words.infinity else words.infinity
  | .finite negative m e =>
    let body := if m = 0 then ['0', '.', '0'] else layout (shortest m e)
    if negative then '-' :: body else body

def plainWords : Words := ⟨['n', 'a', 'n'], ['i', 'n', 'f']⟩

def plainText (x : Binary64) : String :=
  String.ofList (text plainWords x)

end SassData.Binary64
