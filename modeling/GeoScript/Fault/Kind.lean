/-! # Kinds of faults

A flat classification of everything that can go wrong, with the short name that starts a rendered
fault and the stable code by which programs tell kinds apart. Some kinds are reserved: no rule of
this library raises them, but records of them can be made and kept. -/

namespace GeoScript

/-- A kind of fault. -/
inductive FaultKind where
  | unknownCommand
  | illegalArgument
  | illegalArgumentNumber
  | illegalBoolean
  | illegalComparison
  | illegalListOperation
  | illegalAssignment
  | unbalancedBrackets
  | circularDefinition
  | invalidInput
  | undefinedVariable
  | nameUsed
  | changeDependent
  | numberExpected
  | functionExpected
  | invalidEquation
  | invalidFunction
  /-- A command of the catalogue that its processor has no rule for. -/
  | notImplemented
deriving DecidableEq

namespace FaultKind

/-- Every kind, in the order in which they are listed. -/
def all : List FaultKind :=
  [.unknownCommand, .illegalArgument, .illegalArgumentNumber, .illegalBoolean, .illegalComparison,
    .illegalListOperation, .illegalAssignment, .unbalancedBrackets, .circularDefinition,
    .invalidInput, .undefinedVariable, .nameUsed, .changeDependent, .numberExpected,
    .functionExpected, .invalidEquation, .invalidFunction, .notImplemented]

/-- The short name of a kind. -/
def name : FaultKind → String
  | .unknownCommand => "UnknownCommand"
  | .illegalArgument => "IllegalArgument"
  | .illegalArgumentNumber => "IllegalArgumentNumber"
  | .illegalBoolean => "IllegalBoolean"
  | .illegalComparison => "IllegalComparison"
  | .illegalListOperation => "IllegalListOperation"
  | .illegalAssignment => "IllegalAssignment"
  | .unbalancedBrackets => "UnbalancedBrackets"
  | .circularDefinition => "CircularDefinition"
  | .invalidInput => "InvalidInput"
  | .undefinedVariable => "UndefinedVariable"
  | .nameUsed => "NameUsed"
  | .changeDependent => "ChangeDependent"
  | .numberExpected => "NumberExpected"
  | .functionExpected => "FunctionExpected"
  | .invalidEquation => "InvalidEquation"
  | .invalidFunction => "InvalidFunction"
  | .notImplemented => "NotImplemented"

/-- The stable code of a kind. -/
def code : FaultKind → String
  | .unknownCommand => "ERR_UNKNOWN_COMMAND"
  | .illegalArgument => "ERR_ILLEGAL_ARGUMENT"
  | .illegalArgumentNumber => "ERR_ILLEGAL_ARGUMENT_NUMBER"
  | .illegalBoolean => "ERR_ILLEGAL_BOOLEAN"
  | .illegalComparison => "ERR_ILLEGAL_COMPARISON"
  | .illegalListOperation => "ERR_ILLEGAL_LIST_OPERATION"
  | .illegalAssignment => "ERR_ILLEGAL_ASSIGNMENT"
  | .unbalancedBrackets => "ERR_UNBALANCED_BRACKETS"
  | .circularDefinition => "ERR_CIRCULAR_DEFINITION"
  | .invalidInput => "ERR_INVALID_INPUT"
  | .undefinedVariable => "ERR_UNDEFINED_VARIABLE"
  | .nameUsed => "ERR_NAME_USED"
  | .changeDependent => "ERR_CHANGE_DEPENDENT"
  | .numberExpected => "ERR_NUMBER_EXPECTED"
  | .functionExpected => "ERR_FUNCTION_EXPECTED"
  | .invalidEquation => "ERR_INVALID_EQUATION"
  | .invalidFunction => "ERR_INVALID_FUNCTION"
  | .notImplemented => "ERR_NOT_IMPLEMENTED"

end FaultKind

end GeoScript
