namespace SassData.Scss

def isHexDigit (c : Char) : Bool :=
  ('0' ≤ c && c ≤ '9') || ('a' ≤ c && c ≤ 'f') || ('A' ≤ c && c ≤ 'F')

def isExtended (c : Char) : Bool :=
  c < ' ' || '~' < c

def isNameStart (c : Char) : Bool :=
  c.isAlpha || c = '_' || isExtended c

def isNameChar (c : Char) : Bool :=
  c.isAlphanum || c = '_' || c = '-' || isExtended c

def afterHexDigits : Nat → List Char → Option (List Char)
  | 0, cs => some cs
  | n + 1, c :: cs => if isHexDigit c then afterHexDigits n cs else none
  | _ + 1, [] => none

def afterColor : List Char → Option (List Char)
  | '#' :: cs =>
    afterHexDigits 8 cs <|> afterHexDigits 6 cs <|> afterHexDigits 4 cs <|> afterHexDigits 3 cs
  | _ => none

def afterIdentifier : List Char → Option (List Char)
  | '-' :: c :: cs => if isNameStart c || c = '-' then some (cs.dropWhile isNameChar) else none
  | c :: cs => if isNameStart c then some (cs.dropWhile isNameChar) else none
  | [] => none

def afterClosing (mark : Char) : List Char → Option (List Char)
  | [] => none
  | '\\' :: _ :: cs => afterClosing mark cs
  | c :: cs =>
    if c = mark then some cs else if c = '\\' then none else afterClosing mark cs

def afterQuoted : List Char → Option (List Char)
  | '"' :: cs => afterClosing '"' cs
  | '\x27' :: cs => afterClosing '\x27' cs
  | _ => none

def afterLiteral (cs : List Char) : Option (List Char) :=
  afterColor cs <|> afterIdentifier cs <|> afterQuoted cs

def isLiteral (cs : List Char) : Bool :=
  afterLiteral cs == some []

def isBareLiteral (s : String) : Bool :=
  isLiteral s.toList

end SassData.Scss
