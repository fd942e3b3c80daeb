import GeoScript.Number

/-! # Values and expressions

An expression is a tree of nodes, each with a kind and, where the kind has a use for them, a value,
a label and children. The reader builds only certain shapes of nodes (a command has a name and one
argument node for each argument, an assignment a label and the expression to its right), but a tree
may also be put together by hand, and every operation on trees answers for every tree.

Values and expressions contain each other: an argument may be a command, an assignment holds the
expression it labels.

* `Expr.command`, `Expr.assignment`, `Expr.leaf`: the shapes that the reader builds.
* `Expr.commandName?`, `Expr.arguments`, `Expr.assigned?`: the parts of a node, if it has them. -/

namespace GeoScript

/-- A point of the plane or, with a third coordinate, of space. -/
structure Coordinates where
  x : Float
  y : Float
  z : Option Float
deriving DecidableEq

/-- Two or three. -/
def Coordinates.dimension (p : Coordinates) : Nat := if p.z.isSome then 3 else 2

/-- What a node of an expression is. -/
inductive ExprKind where
  | command
  | assignment
  | number
  | point
  | list
  | variable
  | identifier
  | argument
deriving DecidableEq

/-- The name of a kind in messages and in data texts. -/
def ExprKind.name : ExprKind → String
  | .command => "command"
  | .assignment => "assignment"
  | .number => "number"
  | .point => "point"
  | .list => "list"
  | .variable => "variable"
  | .identifier => "identifier"
  | .argument => "argument"

mutual

/-- A node of an expression tree. -/
structure Expr where
  kind : ExprKind
  value : Option Value
  label : Option String
  children : List Expr

/-- A value: an argument, an item of a list, or the content of a node. -/
inductive Value where
  | number (n : Number)
  | point (p : Coordinates)
  | list (items : List Value)
  | text (s : String)
  | expr (e : Expr)

end

namespace Value

/-- The name of a value's type, which tells whole numbers from the others. -/
def typeName : Value → String
  | .number (.int _) => "int"
  | .number (.float _) => "float"
  | .point _ => "point"
  | .list _ => "list"
  | .text _ => "text"
  | .expr _ => "expression"

/-- The number that a value is. -/
def number? : Value → Option Number
  | .number n => some n
  | _ => none

/-- The text that a value is. -/
def text? : Value → Option String
  | .text s => some s
  | _ => none

end Value

namespace Expr

/-- A node with a value and nothing else. -/
def leaf (kind : ExprKind) (value : Value) : Expr :=
  { kind, value := some value, label := none, children := [] }

/-- A call of the command `name`. -/
def command (name : String) (arguments : List Value) : Expr :=
  { kind := .command, value := some (.text name), label := none,
    children := arguments.map (leaf .argument) }

/-- The expression `rhs` under the label `label`. -/
def assignment (label : String) (rhs : Expr) : Expr :=
  { kind := .assignment, value := some (.expr rhs), label := some label, children := [] }

/-- The same node with a label. -/
def withLabel (e : Expr) (label : String) : Expr := { e with label := some label }

/-- The name of the command that a node calls. -/
def commandName? (e : Expr) : Option String :=
  match e.kind, e.value with
  | .command, some (.text name) => some name
  | _, _ => none

/-- The values of a node's children. -/
def arguments (e : Expr) : List Value := e.children.filterMap Expr.value

/-- The expression that an assignment labels. -/
def assigned? (e : Expr) : Option Expr :=
  match e.kind, e.value with
  | .assignment, some (.expr rhs) => some rhs
  | _, _ => none

theorem commandName?_eq_some_iff {e : Expr} {name : String} :
    e.commandName? = some name ↔ e.kind = .command ∧ e.value = some (.text name) := by
  unfold commandName?
  constructor
  · intro h
    split at h
    · next hkind hvalue =>
      cases h
      exact ⟨hkind, hvalue⟩
    · cases h
  · rintro ⟨hkind, hvalue⟩
    rw [hkind, hvalue]

@[simp] theorem commandName?_command (name : String) (arguments : List Value) :
    (command name arguments).commandName? = some name := rfl

@[simp] theorem arguments_command (name : String) (arguments : List Value) :
    (command name arguments).arguments = arguments := by
  simp only [Expr.arguments, command, List.filterMap_map]
  exact List.filterMap_some

@[simp] theorem assigned?_assignment (label : String) (rhs : Expr) :
    (assignment label rhs).assigned? = some rhs := rfl

end Expr

end GeoScript
