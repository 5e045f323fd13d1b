import SassData.Text.Pieces

namespace SassData.Path

def here : List Char := ['.']

def up : List Char := ['.', '.']

def anchor (p : List Char) : List Char :=
  match (p.takeWhile (· = '/')).length with
  | 0 => []
  | 2 => ['/', '/']
  | _ => ['/']

def parts (p : List Char) : List (List Char) :=
  Text.pieces '/' p

def isAbsolute : List Char → Bool
  | '/' :: _ => true
  | _ => false

def join (directory p : List Char) : List Char :=
  if isAbsolute p then p
  else if directory = [] ∨ directory.getLast? = some '/' then directory ++ p
  else directory ++ '/' :: p

def directory (p : List Char) : List Char :=
  let head := (p.reverse.dropWhile (· ≠ '/')).reverse
  if head.all (· = '/') then head else (head.reverse.dropWhile (· = '/')).reverse

/-- Goes through components from left to right; those so far are kept in reverse. A double dot undoes the component
before it, and is dropped at the root. -/
def walk (anchored : Bool) : List (List Char) → List (List Char) → List (List Char)
  | done, [] => done.reverse
  | done, c :: cs =>
    if c = [] ∨ c = here then walk anchored done cs
    else if c ≠ up then walk anchored (c :: done) cs
    else match done with
      | [] => if anchored then walk anchored [] cs else walk anchored [c] cs
      | d :: ds => if d = up then walk anchored (c :: d :: ds) cs else walk anchored ds cs

def components (p : List Char) : List (List Char) :=
  walk (isAbsolute p) [] (parts p)

def normalize (p : List Char) : List Char :=
  match anchor p ++ Text.glue ['/'] (components p) with
  | [] => here
  | q => q

def absolute (cwd p : List Char) : List Char :=
  normalize (join cwd p)

def isDataModule (p : List Char) : Bool :=
  ['.', 'p', 'y'].isSuffixOf p || ['.', 'p', 'y', 'w'].isSuffixOf p

end SassData.Path
