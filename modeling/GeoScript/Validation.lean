import GeoScript.Catalog.Command
import GeoScript.Syntax.Reader

/-! # Validation

What can be found wrong with an expression without evaluating it: commands that are not in the
catalogue, wherever they are called, and names that stand for nothing.

* `Expr.problems`: the problems of an expression, from left to right.
* `Problem.message`: the wording. -/

namespace GeoScript

/-- Something wrong with an expression. -/
inductive Problem where
  /-- The text is no expression. -/
  | unreadable (fault : Fault)
  | unknownCommand (name : String)
  | undefinedVariable (name : String)
deriving DecidableEq

/-- The wording of a problem. -/
def Problem.message : Problem → String
  | .unreadable fault => fault.message
  | .unknownCommand name => "Unknown command: " ++ name
  | .undefinedVariable name => "Undefined variable: " ++ name

/-- The problem of a node by itself. -/
def nodeProblem (vars : Syntax.Variables) (kind : ExprKind) (value : Option Value) : List Problem :=
  match kind, value with
  | .command, some (.text name) =>
    if (Command.find? name).isNone then [.unknownCommand name] else []
  | .identifier, some (.text name) =>
    if vars.contains name then [] else [.undefinedVariable name]
  | _, _ => []

mutual

/-- The problems of an expression: those of the node itself, of its value and of its children. -/
def Expr.problems (vars : Syntax.Variables) : Expr → List Problem
  | { kind, value, label := _, children } =>
    nodeProblem vars kind value ++ Expr.contentProblems vars value ++ Expr.allProblems vars children

/-- The problems of a node's value, if it has one. -/
def Expr.contentProblems (vars : Syntax.Variables) : Option Value → List Problem
  | none => []
  | some v => v.problems vars

/-- The problems of some expressions. -/
def Expr.allProblems (vars : Syntax.Variables) : List Expr → List Problem
  | [] => []
  | e :: es => e.problems vars ++ Expr.allProblems vars es

/-- The problems of a value, which are those of the expressions in it. -/
def Value.problems (vars : Syntax.Variables) : Value → List Problem
  | .expr e => e.problems vars
  | .list items => Value.allProblems vars items
  | .number _ | .point _ | .text _ => []

/-- The problems of some values. -/
def Value.allProblems (vars : Syntax.Variables) : List Value → List Problem
  | [] => []
  | v :: vs => v.problems vars ++ Value.allProblems vars vs

end

/-- The problems of a text: the fault of reading it, or those of the expression. -/
def problemsOfText (vars : Syntax.Variables) (text : String) : List Problem :=
  match Expr.read vars text with
  | .error fault => [.unreadable fault]
  | .ok e => e.problems vars

end GeoScript
