import GeoScript.Catalog.Category

/-! # The catalogue of commands

The commands that the language knows, each with its name and its category. Names are matched
exactly, so `Point` is a command and `point` is not.

* `Command.find?`: the command with a name.
* `Command.signature`: a hint at a command's arguments. -/

namespace GeoScript

/-- A command of the language. -/
inductive Command where
  | mod
  | div
  | min
  | max
  | lcm
  | gcd
  | expand
  | factor
  | simplify
  | line
  | ray
  | angularBisector
  | orthogonalLine
  | tangent
  | segment
  | slope
  | angle
  | point
  | midpoint
  | lineBisector
  | intersect
  | distance
  | length
  | radius
  | circleArc
  | arc
  | sector
  | polygon
  | area
  | circumference
  | perimeter
  | locus
  | centroid
  | sum
  | mean
  | variance
  | standardDeviation
  | median
  | mode
  | random
  | randomNormal
  | normal
  | binomial
  | root
  | roots
  | polynomial
  | function
  | extremum
  | derivative
  | integral
  | limit
  | ellipse
  | hyperbola
  | conic
  | circle
  | parabola
  | focus
  | center
  | sort
  | first
  | last
  | take
  | element
  | append
  | join
  | sequence
  | vector
  | unitVector
  | invert
  | transpose
  | determinant
  | mirror
  | dilate
  | rotate
  | translate
  | text
  | conditional
  | countIf
  | defined
  | setColor
  | setLineThickness
  | setPointSize
  | delete
deriving DecidableEq

namespace Command

/-- Every command, in the order of the catalogue. -/
def all : List Command :=
  [.mod, .div, .min, .max, .lcm, .gcd, .expand, .factor, .simplify, .line, .ray, .angularBisector,
    .orthogonalLine, .tangent, .segment, .slope, .angle, .point, .midpoint, .lineBisector,
    .intersect, .distance, .length, .radius, .circleArc, .arc, .sector, .polygon, .area,
    .circumference, .perimeter, .locus, .centroid, .sum, .mean, .variance, .standardDeviation,
    .median, .mode, .random, .randomNormal, .normal, .binomial, .root, .roots, .polynomial,
    .function, .extremum, .derivative, .integral, .limit, .ellipse, .hyperbola, .conic, .circle,
    .parabola, .focus, .center, .sort, .first, .last, .take, .element, .append, .join, .sequence,
    .vector, .unitVector, .invert, .transpose, .determinant, .mirror, .dilate, .rotate,
    .translate, .text, .conditional, .countIf, .defined, .setColor, .setLineThickness,
    .setPointSize, .delete]

/-- The name of a command, as it is written in expressions. -/
def name : Command → String
  | .mod => "Mod"
  | .div => "Div"
  | .min => "Min"
  | .max => "Max"
  | .lcm => "LCM"
  | .gcd => "GCD"
  | .expand => "Expand"
  | .factor => "Factor"
  | .simplify => "Simplify"
  | .line => "Line"
  | .ray => "Ray"
  | .angularBisector => "AngularBisector"
  | .orthogonalLine => "OrthogonalLine"
  | .tangent => "Tangent"
  | .segment => "Segment"
  | .slope => "Slope"
  | .angle => "Angle"
  | .point => "Point"
  | .midpoint => "Midpoint"
  | .lineBisector => "LineBisector"
  | .intersect => "Intersect"
  | .distance => "Distance"
  | .length => "Length"
  | .radius => "Radius"
  | .circleArc => "CircleArc"
  | .arc => "Arc"
  | .sector => "Sector"
  | .polygon => "Polygon"
  | .area => "Area"
  | .circumference => "Circumference"
  | .perimeter => "Perimeter"
  | .locus => "Locus"
  | .centroid => "Centroid"
  | .sum => "Sum"
  | .mean => "Mean"
  | .variance => "Variance"
  | .standardDeviation => "SD"
  | .median => "Median"
  | .mode => "Mode"
  | .random => "Random"
  | .randomNormal => "RandomNormal"
  | .normal => "Normal"
  | .binomial => "Binomial"
  | .root => "Root"
  | .roots => "Roots"
  | .polynomial => "Polynomial"
  | .function => "Function"
  | .extremum => "Extremum"
  | .derivative => "Derivative"
  | .integral => "Integral"
  | .limit => "Limit"
  | .ellipse => "Ellipse"
  | .hyperbola => "Hyperbola"
  | .conic => "Conic"
  | .circle => "Circle"
  | .parabola => "Parabola"
  | .focus => "Focus"
  | .center => "Center"
  | .sort => "Sort"
  | .first => "First"
  | .last => "Last"
  | .take => "Take"
  | .element => "Element"
  | .append => "Append"
  | .join => "Join"
  | .sequence => "Sequence"
  | .vector => "Vector"
  | .unitVector => "UnitVector"
  | .invert => "Invert"
  | .transpose => "Transpose"
  | .determinant => "Determinant"
  | .mirror => "Mirror"
  | .dilate => "Dilate"
  | .rotate => "Rotate"
  | .translate => "Translate"
  | .text => "Text"
  | .conditional => "If"
  | .countIf => "CountIf"
  | .defined => "Defined"
  | .setColor => "SetColor"
  | .setLineThickness => "SetLineThickness"
  | .setPointSize => "SetPointSize"
  | .delete => "Delete"

/-- The category of a command. -/
def category : Command → Category
  | .mod | .div | .min | .max | .lcm | .gcd | .expand | .factor | .simplify => .algebra
  | .line | .ray | .angularBisector | .orthogonalLine | .tangent | .segment | .slope | .angle
  | .point | .midpoint | .lineBisector | .intersect | .distance | .length | .radius
  | .circleArc | .arc | .sector | .polygon | .area | .circumference | .perimeter | .locus
  | .centroid => .geometry
  | .sum | .mean | .variance | .standardDeviation | .median | .mode => .statistics
  | .random | .randomNormal | .normal | .binomial => .probability
  | .root | .roots | .polynomial | .function | .extremum | .derivative | .integral
  | .limit => .function
  | .ellipse | .hyperbola | .conic | .circle | .parabola | .focus | .center => .conic
  | .sort | .first | .last | .take | .element | .append | .join | .sequence => .list
  | .vector | .unitVector | .invert | .transpose | .determinant => .vector
  | .mirror | .dilate | .rotate | .translate => .transformation
  | .text => .text
  | .conditional | .countIf | .defined => .logical
  | .setColor | .setLineThickness | .setPointSize | .delete => .scripting

/-- The command with a name, in exact case. -/
def find? (name : String) : Option Command := all.find? fun c => c.name == name

/-- The commands of a category, in the order of the catalogue. -/
def ofCategory (category : Category) : List Command := all.filter fun c => c.category = category

/-- What a command expects between its parentheses, as far as that is on record. -/
def parameters : Command → List String
  | .point => ["<x>", "<y>"]
  | .line | .segment | .midpoint => ["<Point>", "<Point>"]
  | .circle => ["<Center>", "<Radius>"]
  | .intersect | .distance => ["<Object>", "<Object>"]
  | .length => ["<Object>"]
  | .angle => ["<Point>", "<Vertex>", "<Point>"]
  | .sum | .mean => ["<Number>", "<Number>", "..."]
  | _ => ["..."]

/-- A hint at how to call a command, such as `Line( <Point>, <Point> )`. -/
def signature (c : Command) : String :=
  c.name ++ "( " ++ ", ".intercalate c.parameters ++ " )"

theorem mem_all (c : Command) : c ∈ all := by cases c <;> decide

/-- **Every command is found by its name.** -/
theorem find?_name (c : Command) : find? c.name = some c := by
  have h : ∀ c ∈ all, find? c.name = some c := by decide +kernel
  exact h c (mem_all c)

theorem name_of_find? {name : String} {c : Command} (h : find? name = some c) : c.name = name := by
  simpa using List.find?_some h

end Command

end GeoScript
