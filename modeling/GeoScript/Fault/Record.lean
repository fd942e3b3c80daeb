import GeoScript.Fault.Basic

/-! # Records of faults

What is kept of a fault after the call that it ended: its kind, and as much of the command, the
message, the arguments and the evaluation as was known.

* `FaultRecord.render`: one line for a record.
* `Fault.record`: the record of a fault.
* `Fault.render_record`: the line of a fault's record is the fault's own message, unless arguments
  were refused with a message of their own. -/

namespace GeoScript

/-- The name of one evaluation, by which its events and its fault are found again. -/
structure EvalId where
  text : String
deriving DecidableEq

/-- Identifiers are ordered as texts, by code point. -/
def EvalId.precedes (a b : EvalId) : Bool := a.text < b.text

/-- What is kept of a fault. -/
structure FaultRecord where
  kind : FaultKind
  command : Option String
  message : Option String
  arguments : List String
  evalId : Option EvalId
deriving DecidableEq

namespace FaultRecord

/-- A record of a kind, with nothing else known. -/
def ofKind (kind : FaultKind) : FaultRecord :=
  { kind, command := none, message := none, arguments := [], evalId := none }

/-- One line: the message, else the kind with the command, else the kind with the arguments, else
the kind. -/
def render (r : FaultRecord) : String :=
  match r.message, r.command, r.arguments with
  | some message, _, _ => message
  | none, some command, _ => r.kind.name ++ ": " ++ command
  | none, none, [] => r.kind.name
  | none, none, arguments => r.kind.name ++ ": " ++ ", ".intercalate arguments

end FaultRecord

namespace Fault

/-- The record of a fault. A refused label takes the place of the command, and an undefined name and
a mistyped argument's type are the arguments. -/
def record (f : Fault) : FaultRecord :=
  let blank := FaultRecord.ofKind f.kind
  match f with
  | .unknownCommand command => { blank with command := some command }
  | .illegalArgument command arguments message =>
    { blank with command := some command, arguments, message }
  | .argumentType command _ _ actual =>
    { blank with command := some command, arguments := [actual], message := some f.message }
  | .commandNotAllowed command | .argumentCount command _ _ | .notImplemented command
  | .nameUsed command => { blank with command := some command, message := some f.message }
  | .undefinedVariable name => { blank with arguments := [name], message := some f.message }
  | .invalidInput _ | .circularDefinition _ | .invalidProfile _ =>
    { blank with message := some f.message }

/-- **A fault's record reads as the fault,** unless arguments were refused in words of their own. -/
theorem render_record (f : Fault)
    (h : ∀ command arguments message, f ≠ .illegalArgument command arguments (some message)) :
    f.record.render = f.message := by
  cases f with
  | illegalArgument command arguments message =>
    cases message with
    | none => rfl
    | some m => exact absurd rfl (h command arguments m)
  | _ => rfl

theorem kind_record (f : Fault) : f.record.kind = f.kind := by cases f <;> rfl

end Fault

end GeoScript
