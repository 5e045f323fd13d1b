import SassData.Text.Blank

namespace SassData.Import

inductive ErrorKind
  | invalidPath
  | fileNotFound
  | importFailed
  | noDefaultExport
  | dataSerializationFailed
  | dataParsingFailed
  | invalidData
  | resolutionNotFound
  | timeout
  | unknown
deriving DecidableEq, Inhabited

def ErrorKind.name : ErrorKind → String
  | .invalidPath => "InvalidPath"
  | .fileNotFound => "FileNotFound"
  | .importFailed => "ImportFailed"
  | .noDefaultExport => "NoDefaultExport"
  | .dataSerializationFailed => "DataSerializationFailed"
  | .dataParsingFailed => "DataParsingFailed"
  | .invalidData => "InvalidData"
  | .resolutionNotFound => "ResolutionNotFound"
  | .timeout => "Timeout"
  | .unknown => "Unknown"

inductive ErrorClass
  | general
  | of (kind : ErrorKind)
deriving DecidableEq, Inhabited

namespace ErrorClass

def all : List ErrorClass :=
  .general :: [ErrorKind.invalidPath, .fileNotFound, .importFailed, .noDefaultExport, .dataSerializationFailed,
    .dataParsingFailed, .invalidData, .resolutionNotFound, .timeout, .unknown].map .of

def name : ErrorClass → String
  | .general => "ImporterError"
  | .of .invalidPath => "InvalidPathError"
  | .of .fileNotFound => "ModuleFileNotFoundError"
  | .of .importFailed => "ImportFailedError"
  | .of .noDefaultExport => "NoDefaultExportError"
  | .of .dataSerializationFailed => "DataSerializationFailedError"
  | .of .dataParsingFailed => "DataParsingFailedError"
  | .of .invalidData => "InvalidDataError"
  | .of .resolutionNotFound => "ResolutionNotFoundError"
  | .of .timeout => "TransformTimeoutError"
  | .of .unknown => "UnknownImporterError"

def ofName? (s : String) : Option ErrorClass :=
  all.find? (·.name = s)

def kind : ErrorClass → ErrorKind
  | .general => .unknown
  | .of k => k

def defaultDiagnostic (c : ErrorClass) : String :=
  match c.kind with
  | .invalidPath => "File path must be absolute"
  | .fileNotFound => "File does not exist"
  | .importFailed => "Could not import module"
  | .noDefaultExport => "Imported module has no default export"
  | .dataSerializationFailed => "Imported module data could not be serialized"
  | .dataParsingFailed => "Failed to parse JSON data"
  | .invalidData => "Data is not an object"
  | .resolutionNotFound => "Unable to find module in any include path"
  | .timeout => "Timed out while importing module"
  | .unknown => "Unknown error while importing Python module"

end ErrorClass

structure ImportError where
  errorClass : ErrorClass
  diagnostic : String
deriving DecidableEq, Inhabited

namespace ImportError

def make (c : ErrorClass) (diagnostic : Option String) : ImportError :=
  let given := (diagnostic.map Text.trimmed).getD ""
  ⟨c, if given = "" then c.defaultDiagnostic else given⟩

theorem make_blank {c : ErrorClass} {s : String} (hs : Text.trimmed s = "") :
    make c (some s) = ⟨c, c.defaultDiagnostic⟩ := by
  rw [make, Option.map_some, Option.getD_some, if_pos hs]

theorem make_trimmed {c : ErrorClass} {s : String} (hs : Text.trimmed s ≠ "") :
    make c (some s) = ⟨c, Text.trimmed s⟩ := by
  rw [make, Option.map_some, Option.getD_some, if_neg hs]

def kind (e : ImportError) : ErrorKind :=
  e.errorClass.kind

def text (e : ImportError) : String :=
  e.kind.name ++ ": " ++ e.diagnostic

end ImportError

inductive ExitCode
  | ok
  | invalidPath
  | fileNotFound
  | importFailed
  | noDefaultExport
  | dataSerializationFailed
deriving DecidableEq, Inhabited

namespace ExitCode

def all : List ExitCode :=
  [.ok, .invalidPath, .fileNotFound, .importFailed, .noDefaultExport, .dataSerializationFailed]

def code : ExitCode → Nat
  | .ok => 0
  | .invalidPath => 10
  | .fileNotFound => 11
  | .importFailed => 12
  | .noDefaultExport => 13
  | .dataSerializationFailed => 14

def name : ExitCode → String
  | .ok => "OK"
  | .invalidPath => "INVALID_PATH"
  | .fileNotFound => "FILE_NOT_FOUND"
  | .importFailed => "IMPORT_FAILED"
  | .noDefaultExport => "NO_DEFAULT_EXPORT"
  | .dataSerializationFailed => "DATA_SERIALIZATION_FAILED"

def ofStatus? (status : Int) : Option ExitCode :=
  all.find? fun c => (c.code : Int) = status

def errorClass : ExitCode → ErrorClass
  | .ok => .of .unknown
  | .invalidPath => .of .invalidPath
  | .fileNotFound => .of .fileNotFound
  | .importFailed => .of .importFailed
  | .noDefaultExport => .of .noDefaultExport
  | .dataSerializationFailed => .of .dataSerializationFailed

end ExitCode

/-- The error for a process status, which may be unknown. Success and a status that is no outcome of the exporting
process are errors of the unknown kind. -/
def ImportError.ofStatus (status : Option Int) (diagnostic : Option String) : ImportError :=
  .make (((status.bind ExitCode.ofStatus?).map ExitCode.errorClass).getD (.of .unknown)) diagnostic

end SassData.Import
