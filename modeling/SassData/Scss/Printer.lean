import SassData.Json.Writer
import SassData.Scss.Literal
import SassData.Text.Pieces

namespace SassData.Scss

def printString (s : List Char) : List Char :=
  if isLiteral s then s else Json.writeString .unicode s

def printKey (k : List Char) : List Char :=
  '\x27' :: k.flatMap (fun c => if c = '\x27' then ['\\', '\x27'] else [c]) ++ ['\x27']

mutual

def print : Json → List Char
  | .str s => printString s.toList
  | .arr items => '(' :: printItems items ++ [')']
  | .obj members => '(' :: printEntries members ++ [')']
  | v => v.write .unicode

def printItems : List Json → List Char
  | [] => []
  | v :: vs => print v ++ ',' :: printItems vs

def printEntries : List (String × Json) → List Char
  | [] => []
  | (k, v) :: ms => printKey k.toList ++ ':' :: ' ' :: print v ++ ',' :: printEntries ms

end

def declaration (m : String × Json) : List Char :=
  '$' :: m.1.toList ++ ':' :: ' ' :: print m.2 ++ [';']

def printDeclarations (members : Members) : List Char :=
  Text.glue ['\n'] (members.map declaration)

def literal (v : Json) : String :=
  String.ofList (print v)

def declarations (members : Members) : String :=
  String.ofList (printDeclarations members)

end SassData.Scss
