import GeoScript.Construction
import GeoScript.Evaluation.Engine
import GeoScript.Syntax.Reader

/-! # Workspaces

A workspace holds what an expression is evaluated against: the variables, the engine and the
construction. Evaluating an expression changes the construction only, by binding labels.

* `Workspace.read`: an expression, with the values of the variables.
* `evaluate`: the result of an expression; each label on the way is checked before the expression
  under it is evaluated and bound after it.
* `bindLabels`: binds the labels of an expression to a result, the innermost first.
* `readingLog`: the events of reading an expression, which can be seen from the expression. -/

namespace GeoScript

/-- What expressions are evaluated against. -/
structure Workspace where
  vars : Syntax.Variables
  engine : Engine
  construction : Construction

/-- No variables, the engine to start with, and nothing constructed. -/
def Workspace.initial : Workspace :=
  { vars := .empty, engine := .initial, construction := .empty }

/-- Reads an expression with the values of the variables. -/
def Workspace.read (w : Workspace) (text : String) : Except Fault Expr := Expr.read w.vars text

/-! ### Events of reading -/

/-- The event of putting a label on an expression of some kind. -/
def labelledEvent (label : String) (kind : ExprKind) : Event :=
  .note .trace "parsed assignment" [("label", label), ("kind", kind.name)]

/-- The events of reading an expression, one for each label, the innermost first. -/
def readingLog : Expr → Log
  | { kind := .assignment, value := some (.expr rhs), label := some l, children := _ } =>
    readingLog rhs ++ [labelledEvent l rhs.kind]
  | { kind := .command, value := _, label := some l, children := _ } => [labelledEvent l .command]
  | _ => []

/-! ### Binding labels -/

/-- Binds one label to a result, unless no labels are wanted. -/
def record (label : String) (figures : List Figure) (options : Options) :
    Action Construction Unit := fun c =>
  if options.labels && !c.suppressed then
    let log := [Event.note .debug "binding label" [("label", label)]]
    match c.bind? label figures with
    | .error problem => ⟨.error (.invalidInput problem), c, log⟩
    | .ok bound => ⟨.ok (), bound, log⟩
  else
    ⟨.ok (), c, [.note .trace "label output disabled, not recording" [("label", label)]]⟩

/-- Binds the labels of an expression to a result, the innermost first. -/
def bindLabels (e : Expr) (figures : List Figure) (options : Options) : Action Construction Unit :=
  match e with
  | { kind := .assignment, value := some (.expr rhs), label, children := _ } => do
    bindLabels rhs figures options
    label.forM fun l => record l figures options
  | { kind := _, value := _, label, children := _ } =>
    label.forM fun l => record l figures options

/-! ### Evaluation -/

/-- Refuses a label that is bound, unless it may be bound again. -/
def checkRedefinition (label : String) (options : Options) : Action Construction Unit := fun c =>
  if !options.redefinition && !c.isFree label then ⟨.error (.nameUsed label), c, []⟩
  else ⟨.ok (), c, []⟩

/-- The figure of a node that is neither a command nor an assignment. -/
def simpleFigure (e : Expr) : Except Fault Figure :=
  match e.kind, e.value with
  | .number, some (.number n) => .ok (.number n)
  | .point, some (.point p) => .ok (.ofCoordinates p)
  | .list, some (.list items) => .ok (.list items)
  | .variable, some v => Figure.ofValue v
  | .point, some (.text s) => .error (.invalidInput (.invalidPoint s))
  | .identifier, some (.text s) => .error (.invalidInput (.unboundIdentifier s))
  | kind, _ => .error (.invalidInput (.unsupported kind))

/-- The result of a command node, bound to its label. -/
def evaluateCommand (engine : Engine) (e : Expr) (options : Options) :
    Action Construction (List Figure) :=
  match e.commandName? with
  | none => .fail (.invalidInput .namelessCommand)
  | some name => do
    e.label.forM fun l => checkRedefinition l options
    let figures ← .ofTraced (engine.call name e.arguments options)
    e.label.forM fun l => record l figures options
    return figures

/-- **The result of an expression,** bound to its labels. -/
def evaluate (engine : Engine) (options : Options) : Expr → Action Construction (List Figure)
  | { kind := .assignment, value := some (.expr rhs), label := some l, children := _ } => do
    checkRedefinition l options
    let figures ← evaluate engine options rhs
    record l figures options
    return figures
  | { kind := .assignment, value := _, label := _, children := _ } =>
    .fail (.invalidInput .malformedAssignment)
  | { kind := .command, value, label, children } =>
    evaluateCommand engine { kind := .command, value, label, children } options
  | e => .ofExcept ((simpleFigure e).map fun f => [f])

namespace Workspace

/-- An action on the construction alone. -/
def onConstruction {α : Type} (x : Action Construction α) : Action Workspace α :=
  Action.onPart Workspace.construction (fun w c => { w with construction := c }) x

/-- The result of an expression in a workspace. -/
def evaluate (e : Expr) (options : Options) : Action Workspace (List Figure) := fun w =>
  onConstruction (GeoScript.evaluate w.engine options e) w

end Workspace

end GeoScript
