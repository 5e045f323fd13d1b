import SassData.DataModule.Basic

/-!
The file system that imports look at: data modules by path, further directories, and the working directory. Every
directory above a file or directory exists, and the root always does.
-/

namespace SassData

/-- Files and directories by their components below the root, and the working directory. A character of a path may
stand for a byte that is no text; which characters do is left open. If paths are looked up by their texts alone, a
double dot takes the component before it back, whatever that names. -/
structure FileTree where
  files : List (List (List Char) × DataModule) := []
  directories : List (List (List Char)) := []
  cwd : List Char := ['/']
  byteOf : Char → Option UInt8 := fun _ => none
  byText : Bool := false
deriving Inhabited

namespace FileTree

def absolute (t : FileTree) (path : String) : String :=
  String.ofList (Path.absolute t.cwd path.toList)

def place (t : FileTree) (path : String) : List (List Char) :=
  Path.components (Path.absolute t.cwd path.toList)

def namesDirectory (path : String) : Bool :=
  ['/'].isSuffixOf path.toList || ['/', '.'].isSuffixOf path.toList

def hasDirectory (t : FileTree) (place : List (List Char)) : Bool :=
  place.isEmpty || t.directories.any (place.isPrefixOf ·) ||
    t.files.any fun f => place.isPrefixOf f.1 && place ≠ f.1

/-- Where components lead to from a place. Each is looked up in what is there, which has to be a directory. -/
def follow (t : FileTree) : List (List Char) → List (List Char) → Option (List (List Char))
  | place, [] => some place
  | place, c :: cs =>
    if !t.hasDirectory place then none
    else if c = [] ∨ c = Path.here then follow t place cs
    else if c = Path.up then follow t place.dropLast cs
    else follow t (place ++ [c]) cs

def place? (t : FileTree) (path : String) : Option (List (List Char)) :=
  -- Neither an empty path nor one with a null character leads anywhere.
  if path = "" ∨ path.toList.contains '\x00' then none
  else if t.byText then some (t.place path)
  else t.follow [] (Path.parts (Path.join t.cwd path.toList))

def module? (t : FileTree) (path : String) : Option DataModule :=
  if namesDirectory path then none else (t.place? path).bind fun place => t.files.lookup place

def isFile (t : FileTree) (path : String) : Bool :=
  (t.module? path).isSome

def isDirectory (t : FileTree) (path : String) : Bool :=
  (t.place? path).any t.hasDirectory

def pathExists (t : FileTree) (path : String) : Bool :=
  t.isFile path || t.isDirectory path

def write (t : FileTree) (path : String) (m : DataModule) : FileTree :=
  let place := t.place path
  { t with files := (place, m) :: t.files.filter (·.1 ≠ place) }

def remove (t : FileTree) (path : String) : FileTree :=
  let place := t.place path
  { t with files := t.files.filter (·.1 ≠ place) }

def makeDirectory (t : FileTree) (path : String) : FileTree :=
  { t with directories := t.place path :: t.directories }

def changeDirectory (t : FileTree) (path : String) : FileTree :=
  { t with cwd := Path.absolute t.cwd path.toList }

def printedAt (t : FileTree) (path : String) : String :=
  if Path.isAbsolute path.toList then ((t.module? path).map fun m => Print.all path m.performed).getD "" else ""

end FileTree

end SassData
