import GeoScript.Fault.Basic

/-! # Filters on arguments

An argument filter looks at the arguments of a call, as they were written, and finds the first
fault in them: a number of arguments out of bounds, an argument of the wrong type, or whatever a
test of another kind finds.

* `checkCount`: the bounds on the number of arguments.
* `ArgumentType.admits`: the types of values.
* `ArgumentFilter.check`: the verdict. -/

namespace GeoScript

/-- The fault of a number of arguments that is below `least` or above `greatest`; it names the bound
that is crossed. -/
def checkCount (command : String) (arguments : List Value) (least : Nat) (greatest : Option Nat) :
    Except Fault Unit :=
  let actual := arguments.length
  if actual < least then .error (.argumentCount command least actual)
  else match greatest with
    | none => .ok ()
    | some bound => if bound < actual then .error (.argumentCount command bound actual) else .ok ()

/-- The type that an argument is expected to have. -/
inductive ArgumentType where
  | int
  | float
  /-- Whole or not. -/
  | number
  | point
  | list
  | text
  | expression
  | any
deriving DecidableEq

namespace ArgumentType

/-- Every type, in the order in which they are listed. -/
def all : List ArgumentType := [.int, .float, .number, .point, .list, .text, .expression, .any]

/-- The name of a type. -/
def name : ArgumentType → String
  | .int => "int"
  | .float => "float"
  | .number => "number"
  | .point => "point"
  | .list => "list"
  | .text => "text"
  | .expression => "expression"
  | .any => "any"

/-- Whether a value has a type. -/
def admits : ArgumentType → Value → Bool
  | .any, _ | .int, .number (.int _) | .float, .number (.float _) | .number, .number _
  | .point, .point _ | .list, .list _ | .text, .text _ | .expression, .expr _ => true
  | _, _ => false

end ArgumentType

/-- The fault of the first argument, counted from `index` on, that does not have its type. Arguments
and types beyond the shorter of the two lists are not looked at. -/
def checkTypes (command : String) : Nat → List ArgumentType → List Value → Except Fault Unit
  | _, [], _ | _, _, [] => .ok ()
  | index, t :: ts, v :: vs =>
    if t.admits v then checkTypes command (index + 1) ts vs
    else .error (.argumentType command index t.name v.typeName)

/-- A rule for the arguments of calls. -/
inductive ArgumentFilter where
  /-- Bounds on their number. -/
  | count (least : Nat) (greatest : Option Nat)
  /-- Types, by position. -/
  | types (expected : List ArgumentType)
  /-- Some rules, one after the other. -/
  | all (filters : List ArgumentFilter)
  /-- A test of the command's name and the arguments. -/
  | test (check : String → List Value → Except Fault Unit)

namespace ArgumentFilter

mutual

/-- The first fault that a rule finds. -/
def check : ArgumentFilter → String → List Value → Except Fault Unit
  | .count least greatest, command, vs => checkCount command vs least greatest
  | .types expected, command, vs => checkTypes command 0 expected vs
  | .all filters, command, vs => checkAll filters command vs
  | .test check, command, vs => check command vs

/-- The first fault that some rules find, one after the other. -/
def checkAll : List ArgumentFilter → String → List Value → Except Fault Unit
  | [], _, _ => .ok ()
  | f :: fs, command, vs =>
    match f.check command vs with
    | .error fault => .error fault
    | .ok () => checkAll fs command vs

end

theorem checkAll_append (fs gs : List ArgumentFilter) (command : String) (vs : List Value) :
    checkAll (fs ++ gs) command vs =
      match checkAll fs command vs with
      | .error fault => .error fault
      | .ok () => checkAll gs command vs := by
  induction fs with
  | nil => rfl
  | cons f fs ih =>
    simp only [List.cons_append, checkAll]
    cases f.check command vs with
    | error e => rfl
    | ok u => exact ih

end ArgumentFilter

end GeoScript
