import SassData.Import.Failure

namespace SassData.Import

structure Context where
  containingUrl : Option String
  fromImport : Bool
deriving DecidableEq

structure Loaded where
  contents : String
  dialect : String
deriving DecidableEq

structure Imported where
  file : String
  contents : String
deriving DecidableEq

def scss : String := "scss"

def Context.ofFields (members : Members) : Except Failure Context :=
  let url := Field.text? ((members.get? "containing_url").getD .null)
  let fromImport := Field.truthValue ((members.get? "from_import").getD (.bool false))
  match url, fromImport with
  | .ok url, .ok fromImport => .ok ⟨url, fromImport⟩
  | _, _ => .error (.invalidFields (Field.faultOf "containing_url" url ++ Field.faultOf "from_import" fromImport))

def Loaded.ofFields (members : Members) : Except Failure Loaded :=
  let contents := Field.required members "contents"
  let dialect := Field.text ((members.get? "syntax").getD (.str scss))
  match contents, dialect with
  | .ok contents, .ok dialect => .ok ⟨contents, dialect⟩
  | _, _ => .error (.invalidFields (Field.faultOf "contents" contents ++ Field.faultOf "syntax" dialect))

def Imported.ofFields (members : Members) : Except Failure Imported :=
  let file := Field.required members "file"
  let contents := Field.required members "contents"
  match file, contents with
  | .ok file, .ok contents => .ok ⟨file, contents⟩
  | _, _ => .error (.invalidFields (Field.faultOf "file" file ++ Field.faultOf "contents" contents))

end SassData.Import
