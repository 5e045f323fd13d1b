namespace SassData.Text

def isWhiteSpace (c : Char) : Bool :=
  let n := c.toNat
  (0x9 ≤ n && n ≤ 0xD) || n == 0x20 || n == 0x85 || n == 0xA0 || n == 0x1680 ||
    (0x2000 ≤ n && n ≤ 0x200A) || n == 0x2028 || n == 0x2029 || n == 0x202F || n == 0x205F || n == 0x3000

def isBlank (c : Char) : Bool :=
  isWhiteSpace c || (0x1C ≤ c.toNat && c.toNat ≤ 0x1F)

def dropRight (p : Char → Bool) (s : List Char) : List Char :=
  (s.reverse.dropWhile p).reverse

def trimBy (p : Char → Bool) (s : List Char) : List Char :=
  dropRight p (s.dropWhile p)

def trim (s : List Char) : List Char :=
  trimBy isBlank s

def trimmed (s : String) : String :=
  String.ofList (trim s.toList)

end SassData.Text
