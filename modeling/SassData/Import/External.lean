import SassData.Import.Failure

namespace SassData.Import

inductive Complaint
  | exception (e : Thrown)
  | value (v : Json)
  | textless

inductive Act
  | throws (e : Thrown)
  | calls (error : Complaint) (result : Json) (later : Bool)

abbrev ExternalResolver := (previous specifier : String) → List Act

abbrev Completion (α : Type) := Option (Except Failure α)

namespace Act

def brought (e : Thrown) : Json :=
  -- A class derived from the signal that an iteration is over brings a result along.
  (e.message.map Json.str).getD .null

/-- What a call settles. A result that counts as false is none, and an error that counts as false no error. Neither the
signal that an iteration is over nor an error without a text can be handed to those who wait, so that a call with
either of them settles nothing. -/
def settlement? (error : Complaint) (result : Json) : Option (Except Failure Json) :=
  match error with
  | .exception e =>
    if !e.endsIteration then some (.error (.ofThrown e))
    else if e.fullName = "StopIteration" then none
    else some (.ok (brought e))
  | .value v =>
    if v.isFalsy then some (.ok (if result.isFalsy then .null else result))
    else match v.toValue.display with
      | .ok text => some (.error (.thrown (.ofClass "Exception" (String.ofList text))))
      | .error _ => none
  | .textless => none

def thrown? : List Act → Option Thrown
  | [] => none
  | .throws e :: _ => some e
  | .calls .. :: acts => thrown? acts

def firstCall? (later : Bool) : List Act → Option (Except Failure Json)
  | [] => none
  | .throws _ :: _ => none
  | .calls error result l :: acts =>
    if l = later then settlement? error result <|> firstCall? later acts else firstCall? later acts

def outcome (acts : List Act) : Completion Json :=
  match thrown? acts with
  | some e => some (.error (.ofThrown e.leavingCoroutine))
  | none => firstCall? false acts <|> firstCall? true acts

end Act

end SassData.Import
