import SassData.Import.ErrorClass
import SassData.Text.Pieces
import SassData.Text.Quoted

namespace SassData

structure Place where
  file : Option String := none
  line : Option Int := none
deriving DecidableEq

def Place.baseName (file : String) : String :=
  String.ofList ((Text.pieces '/' file.toList).getLast?.getD [])

def Place.text : Place → String
  | ⟨none, none⟩ => ""
  | ⟨some file, none⟩ => " (" ++ baseName file ++ ")"
  | ⟨none, some line⟩ => " (line " ++ toString line ++ ")"
  | ⟨some file, some line⟩ => " (" ++ baseName file ++ ", line " ++ toString line ++ ")"

/-- What the class of an exception derives from, itself included. Those of the last three kinds are no ordinary
exceptions: to leave the program, to be interrupted, and all others. -/
inductive Origin
  | ordinary
  | failedLookup
  | endOfIteration
  | syntaxError (place : Place)
  | importError (c : Import.ErrorClass)
  | leaving
  | interrupt
  | extraordinary
deriving DecidableEq

/-- An exception: the name of its class, with the module that it is printed with in front of it, the message that it
was made with, if any, and the notes that were added to it. -/
structure Thrown where
  scope : String := ""
  name : String
  origin : Origin := .ordinary
  message : Option String := none
  notes : List String := []
deriving DecidableEq

namespace Thrown

def fullName (e : Thrown) : String :=
  e.scope ++ e.name

def isOrdinary (e : Thrown) : Bool :=
  match e.origin with
  | .leaving | .interrupt | .extraordinary => false
  | _ => true

def failsModule (e : Thrown) : Bool :=
  e.origin ≠ .extraordinary

def stopsLoop (e : Thrown) : Bool :=
  e.origin = .leaving || e.origin = .interrupt

def text (e : Thrown) : String :=
  match e.origin with
  | .importError c => (Import.ImportError.make c e.message).text
  | .failedLookup => (e.message.map Text.Quoted.quoted).getD ""
  | .syntaxError place => e.message.getD "None" ++ place.text
  | _ => e.message.getD ""

def words (e : Thrown) : String :=
  if e.message.getD "" = "" then "<no detail available>" else e.message.getD ""

def detail (e : Thrown) : String :=
  -- The line of a syntax error is printed before this text, and its file together with the line.
  match e.origin with
  | .syntaxError ⟨some file, none⟩ => e.words ++ " (" ++ file ++ ")"
  | .syntaxError _ => e.words
  | _ => e.text

def headline (e : Thrown) : String :=
  if e.detail = "" then e.fullName else e.fullName ++ ": " ++ e.detail

def lastLine (e : Thrown) : String :=
  match e.notes.getLast? with
  | some note => String.ofList ((Text.pieces '\n' note.toList).getLast?.getD [])
  | none => e.headline

def summary (e : Thrown) : String :=
  String.ofList ((Text.trim e.lastLine.toList).map fun c => if c = '\n' then ' ' else c)

def ofClass (name message : String) : Thrown :=
  { name, message := some message }

def moduleName : String := "__sass_data__"

def importErrorScope : String := "sass_py_importer.errors."

def ofImportError (c : Import.ErrorClass) (message : Option String) : Thrown :=
  { scope := importErrorScope, name := c.name, origin := .importError c, message }

def endsIteration (e : Thrown) : Bool :=
  e.origin = .endOfIteration

def leavingCoroutine (e : Thrown) : Thrown :=
  if e.endsIteration then ofClass "RuntimeError" "coroutine raised StopIteration" else e

end Thrown

end SassData
