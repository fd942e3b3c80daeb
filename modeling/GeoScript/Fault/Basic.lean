import GeoScript.Expr.Basic
import GeoScript.Fault.Kind
import GeoScript.Files.ReadError

/-! # Faults

Why an operation failed, as a cause with the facts that belong to it. Texts that are refused, and
profiles that are refused, have causes of their own (`InputProblem`, `ProfileProblem`), because
both come in many forms that share one kind of fault.

* `Fault.message`: the wording.
* `Fault.kind`: the kind in the flat classification.
* `Fault.command?`: the command that a fault names. -/

namespace GeoScript

/-- Why a text, a tree or a binding is refused. -/
inductive InputProblem where
  /-- Nothing to read. -/
  | emptyText
  /-- Nothing to evaluate. -/
  | emptyCommand
  /-- An equals sign with nothing on one of its sides. -/
  | invalidAssignment (text : String)
  /-- A left side that is no identifier. -/
  | invalidLabel (label : String)
  /-- A call whose closing parenthesis is not the end of the text. -/
  | invalidCall (text : String)
  /-- A call without a closing parenthesis. -/
  | unbalancedParentheses (text : String)
  /-- A tuple that is no point. -/
  | invalidPoint (text : String)
  /-- A name that stands for nothing. -/
  | unboundIdentifier (name : String)
  /-- A node that cannot be evaluated. -/
  | unsupported (kind : ExprKind)
  | namelessCommand
  | malformedAssignment
  /-- An expression that an input filter refuses. -/
  | expressionRefused
  /-- A result that an output filter refuses. -/
  | resultRefused
  | emptyLabel
  /-- A label that would stand for no figures. -/
  | emptyResult (label : String)
  | unknownCategory (name : String)
  /-- Any other reason, in the words of whoever gives it. -/
  | other (message : String)
deriving DecidableEq

/-- The wording of a refusal. -/
def InputProblem.message : InputProblem → String
  | .emptyText => "Empty input"
  | .emptyCommand => "Empty command"
  | .invalidAssignment text => "Invalid assignment: " ++ text
  | .invalidLabel label => "Invalid label: " ++ label
  | .invalidCall text => "Invalid command syntax: " ++ text
  | .unbalancedParentheses text => "Unbalanced parentheses: " ++ text
  | .invalidPoint text => "Invalid point: " ++ text
  | .unboundIdentifier name => "Unsupported expression type: identifier '" ++ name ++ "'"
  | .unsupported kind => "Unsupported expression type: " ++ kind.name
  | .namelessCommand => "Command node without a name"
  | .malformedAssignment => "Malformed assignment"
  | .expressionRefused => "Expression not allowed by input filters"
  | .resultRefused => "Result not allowed by output filters"
  | .emptyLabel => "Empty label"
  | .emptyResult label => "Cannot bind empty result to '" ++ label ++ "'"
  | .unknownCategory name => "Unknown category: " ++ name
  | .other message => message

/-- Why a session profile is refused. -/
inductive ProfileProblem where
  /-- The file cannot be read. -/
  | unreadable (path : String) (error : ReadError)
  /-- The text is no profile. -/
  | malformed
  | unknownCommand (name : String)
  | unknownCategory (name : String)
  /-- The least number of arguments is above the greatest. -/
  | crossedBounds (least greatest : Nat)
  /-- Any other reason, in the words of whoever gives it. -/
  | other (reason : String)
deriving DecidableEq

/-- The wording of a profile's refusal. -/
def ProfileProblem.message : ProfileProblem → String
  | .unreadable path error => path ++ ": " ++ error.message
  | .malformed => "the text is not a profile"
  | .unknownCommand name => "unknown command '" ++ name ++ "'"
  | .unknownCategory name => "unknown category '" ++ name ++ "'"
  | .crossedBounds least greatest =>
    "arguments.min (" ++ least.repr ++ ") exceeds arguments.max (" ++ greatest.repr ++ ")"
  | .other reason => reason

/-- Why an operation failed. -/
inductive Fault where
  /-- A command that is not in the catalogue, or that nothing processes. -/
  | unknownCommand (command : String)
  /-- A command that a filter refuses. -/
  | commandNotAllowed (command : String)
  /-- Arguments that do not have the shape that a command wants. -/
  | illegalArgument (command : String) (arguments : List String) (message : Option String)
  /-- A number of arguments out of bounds; `expected` is the bound. -/
  | argumentCount (command : String) (expected actual : Nat)
  /-- An argument of the wrong type. -/
  | argumentType (command : String) (index : Nat) (expected actual : String)
  /-- A command that its processor has no rule for. -/
  | notImplemented (command : String)
  /-- A label that is bound and must not be bound again. -/
  | nameUsed (label : String)
  | invalidInput (problem : InputProblem)
  | undefinedVariable (name : String)
  | circularDefinition (message : String)
  | invalidProfile (problem : ProfileProblem)
deriving DecidableEq

namespace Fault

/-- The wording of a fault. -/
def message : Fault → String
  | .unknownCommand command => "UnknownCommand: " ++ command
  | .commandNotAllowed command => "Command '" ++ command ++ "' is not allowed"
  | .illegalArgument command _ _ => "IllegalArgument: " ++ command
  | .argumentCount _ expected actual =>
    "Expected " ++ expected.repr ++ " arguments, got " ++ actual.repr
  | .argumentType _ index expected actual =>
    "Argument " ++ index.repr ++ " expected " ++ expected ++ ", got " ++ actual
  | .notImplemented command => "Command " ++ command ++ " not implemented"
  | .nameUsed label => "Label '" ++ label ++ "' already in use"
  | .invalidInput problem => problem.message
  | .undefinedVariable name => "Undefined variable: " ++ name
  | .circularDefinition message => message
  | .invalidProfile problem => "Invalid session profile: " ++ problem.message

/-- The kind of a fault. -/
def kind : Fault → FaultKind
  | .unknownCommand _ => .unknownCommand
  | .commandNotAllowed _ | .illegalArgument .. | .argumentType .. => .illegalArgument
  | .argumentCount .. => .illegalArgumentNumber
  | .notImplemented _ => .notImplemented
  | .nameUsed _ => .nameUsed
  | .invalidInput _ | .invalidProfile _ => .invalidInput
  | .undefinedVariable _ => .undefinedVariable
  | .circularDefinition _ => .circularDefinition

/-- The command that a fault names. -/
def command? : Fault → Option String
  | .unknownCommand command | .commandNotAllowed command | .illegalArgument command _ _
  | .argumentCount command _ _ | .argumentType command _ _ _ | .notImplemented command =>
    some command
  | .nameUsed _ | .invalidInput _ | .undefinedVariable _ | .circularDefinition _
  | .invalidProfile _ => none

end Fault

end GeoScript
