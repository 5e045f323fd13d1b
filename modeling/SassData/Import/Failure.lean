import SassData.DataModule.Encode
import SassData.Import.Field
import SassData.Path.Url

namespace SassData.Import

def optionsClass : String := "ImporterOptions"

inductive Failure
  | importError (e : ImportError)
  | invalidFields (faults : List (String × Field.Fault))
  | notIterable (typeName : String)
  | notPath (typeName : String)
  | notClass (typeName : String)
  | notDictionary (typeName : String)
  | givenTwice (argument : String)
  | notName (typeName : String)
  | notWritable (name : String)
  | noSetter (name : String)
  | url (fault : Path.Url.Fault)
  | encoding (fault : Value.Fault)
  | stylesheetNotFound (file : String)
  | unknownImporter (name : String)
  | noAttribute (className name : String)
  | notCallable (className : String)
  | thrown (e : Thrown)
deriving DecidableEq

namespace Failure

def ofThrown (e : Thrown) : Failure :=
  match e.origin with
  | .importError c => .importError (.make c e.message)
  | _ => .thrown e

def kind : Failure → String
  | .importError e => e.kind.name
  | .invalidFields _ => "ValidationError"
  | .notIterable _ => "TypeError"
  | .notPath _ => "TypeError"
  | .notClass _ => "TypeError"
  | .notDictionary _ => "TypeError"
  | .givenTwice _ => "TypeError"
  | .notName _ => "TypeError"
  | .notWritable _ => "AttributeError"
  | .noSetter _ => "AttributeError"
  | .url _ => "ValueError"
  | .encoding fault => fault.thrown.name
  | .stylesheetNotFound _ => "FileNotFoundError"
  | .unknownImporter _ => "KeyError"
  | .noAttribute .. => "AttributeError"
  | .notCallable _ => "TypeError"
  | .thrown e => e.name

def message : Failure → String
  | .importError e => e.diagnostic
  | .invalidFields faults => String.intercalate "; " (faults.map fun f => f.1 ++ ": " ++ f.2.name)
  | .notIterable name => "'" ++ name ++ "' object is not iterable"
  | .notPath name => "expected str, bytes or os.PathLike object, not " ++ name
  | .notClass name => "__class__ must be set to a class, not '" ++ name ++ "' object"
  | .notDictionary name => "__dict__ must be set to a dictionary, not a '" ++ name ++ "'"
  | .notName name => "attribute name must be string, not '" ++ name ++ "'"
  | .notWritable name => "attribute '" ++ name ++ "' of '" ++ optionsClass ++ "' objects is not writable"
  | .noSetter name => "property '" ++ name ++ "' of '" ++ optionsClass ++ "' object has no setter"
  | .givenTwice name => optionsClass ++ ".from_env() got multiple values for argument '" ++ name ++ "'"
  | .url .relativePath => "relative path can't be expressed as a file URI"
  | .url (.host fault) => fault.message
  | .encoding fault => fault.thrown.text
  | .stylesheetNotFound file => "Stylesheet not found: " ++ file
  | .unknownImporter name => Text.Quoted.quoted name
  | .noAttribute className name =>
    "'" ++ className ++ "' object has no attribute '" ++ name ++ "'"
  | .notCallable className => "'" ++ className ++ "' object is not callable"
  | .thrown e => e.text

def isOrdinary : Failure → Bool
  | .thrown e => e.isOrdinary
  | _ => true

end Failure

end SassData.Import
