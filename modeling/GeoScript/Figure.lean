import GeoScript.Expr.Data
import GeoScript.Fault.Basic

/-! # Figures

A figure is what a command describes: a geometric object with the values that define it, or a
number, a list or a text. The result of an evaluation is a list of figures.

* `Figure.ofValue`: the figure that a value is by itself.
* `Figure.toData`: a figure as a record that starts with its type. -/

namespace GeoScript

/-- What a command describes. -/
inductive Figure where
  | point (x y : Number) (z : Option Number)
  | line (point1 point2 : Value)
  | segment (point1 point2 : Value)
  | circle (center radius : Value)
  | intersection (object1 object2 : Value)
  | distance (object1 object2 : Value)
  | length (object : Value)
  | angle (point1 vertex point2 : Value)
  | midpoint (point1 point2 : Value)
  | number (value : Number)
  | list (items : List Value)
  | text (value : String)

namespace Figure

/-- The name of a figure's type. -/
def typeName : Figure → String
  | .point .. => "Point"
  | .line .. => "Line"
  | .segment .. => "Segment"
  | .circle .. => "Circle"
  | .intersection .. => "Intersection"
  | .distance .. => "Distance"
  | .length _ => "Length"
  | .angle .. => "Angle"
  | .midpoint .. => "Midpoint"
  | .number _ => "Number"
  | .list _ => "List"
  | .text _ => "Text"

/-- The point with given coordinates. -/
def ofCoordinates (p : Coordinates) : Figure := .point (.float p.x) (.float p.y) (p.z.map .float)

/-- The figure that a value is by itself. An expression is none. -/
def ofValue : Value → Except Fault Figure
  | .number n => .ok (.number n)
  | .point p => .ok (ofCoordinates p)
  | .list items => .ok (.list items)
  | .text s => .ok (.text s)
  | .expr e => .error (.invalidInput (.unsupported e.kind))

/-- The parts of a figure by their names, in the order in which they are written. -/
def fields : Figure → List (String × Data)
  | .point x y z =>
    [("x", .ofNumber x), ("y", .ofNumber y)] ++ optionalField "z" (z.map Data.ofNumber)
  | .line a b | .segment a b | .midpoint a b => [("point1", a.toData), ("point2", b.toData)]
  | .circle center radius => [("center", center.toData), ("radius", radius.toData)]
  | .intersection a b | .distance a b => [("obj1", a.toData), ("obj2", b.toData)]
  | .length object => [("obj", object.toData)]
  | .angle a vertex b =>
    [("point1", a.toData), ("vertex", vertex.toData), ("point2", b.toData)]
  | .number value => [("value", .ofNumber value)]
  | .list items => [("items", .list (items.map Value.toData))]
  | .text value => [("value", .text value)]

/-- A figure as data. -/
def toData (f : Figure) : Data := .record (("type", .text f.typeName) :: f.fields)

end Figure

/-- A result as one line of text. -/
def resultText (figures : List Figure) : String := (Data.list (figures.map Figure.toData)).jsonText

end GeoScript
