import GeoScript.Catalog.Command
import GeoScript.Evaluation.Action
import GeoScript.Evaluation.Resolve
import GeoScript.Expr.Display
import GeoScript.Figure
import GeoScript.Filter.Arguments
import GeoScript.Options

/-! # Processors, and the basic one

A processor computes the result of a command from its arguments. The basic processor describes
points, lines and the other simple figures, and computes sums and means. It looks at the shape of
the arguments only: where a figure wants a point, it takes any value.

* `figure?`: the figure of a command, if the arguments have its shape.
* `basicProcessor`: the processor for the simple commands; the others are not implemented. -/

namespace GeoScript

/-- What computes the result of commands. -/
abbrev Processor := Command → List Value → Options → Traced (List Figure)

/-- The fault of arguments that do not have the shape of a command. -/
def shapeFault (command : String) (arguments : List Value) : Fault :=
  .illegalArgument command (arguments.map Value.render) none

/-- The sum of some numbers, from the left. -/
def sumOf (ns : List Number) : Number := ns.foldl Number.plus Number.zero

/-- The mean of some numbers, in floating point throughout. The sum starts at negative zero, the
number that leaves every other as it is. -/
def meanOf (ns : List Number) : Number :=
  .float (ns.foldl (fun total n => total + n.toFloat) (-0.0) / ns.length.toFloat)

/-- The commands that the basic processor has a rule for. -/
def basicCommands : List Command :=
  [.point, .line, .segment, .circle, .intersect, .distance, .length, .angle, .midpoint, .sum, .mean]

/-- The figure of a command, if the arguments have the shape that the command wants. -/
def figure? : Command → List Value → Option Figure
  | .point, [.number x, .number y] => some (.point x y none)
  | .point, [.point p] => some (.ofCoordinates p)
  | .line, [a, b] => some (.line a b)
  | .segment, [a, b] => some (.segment a b)
  | .circle, [center, radius] => some (.circle center radius)
  | .intersect, [a, b] => some (.intersection a b)
  | .distance, [a, b] => some (.distance a b)
  | .length, [object] => some (.length object)
  | .angle, [a, vertex, b] => some (.angle a vertex b)
  | .midpoint, [a, b] => some (.midpoint a b)
  | .sum, arguments => (arguments.mapM Value.number?).map fun ns => .number (sumOf ns)
  | .mean, arguments => (arguments.mapM Value.number?).map fun ns => .number (meanOf ns)
  | _, _ => none

/-- The result of a command on resolved arguments. -/
def compute (c : Command) (arguments : List Value) : Except Fault (List Figure) :=
  if basicCommands.contains c then
    match figure? c arguments with
    | some f => .ok [f]
    | none => .error (shapeFault c.name arguments)
  else .error (.notImplemented c.name)

/-- The processor for the simple commands. It takes one to ten arguments. -/
def basicProcessor : Processor := fun c arguments _ =>
  match checkCount c.name arguments 1 (some 10) with
  | .error fault => .fail fault
  | .ok () =>
    let resolved := Value.resolveAll arguments
    .after
      (.note .debug "basic processor" [("command", c.name), ("argc", resolved.length.repr)])
      (.of (compute c resolved))

end GeoScript
