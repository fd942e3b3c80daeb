import GeoScript.Text.Blank

/-! # Categories of commands

Every command belongs to one of twenty categories. A category has a *tag*, by which programs name
it, and a *title*, which people read; it is found by either, in any case.

* `Category.find?`: the first category whose tag or title is the wanted name. -/

namespace GeoScript

/-- A class of commands. -/
inductive Category where
  | algebra
  | geometry
  | statistics
  | probability
  | function
  | conic
  | list
  | vector
  | transformation
  | charts
  | text
  | logical
  | scripting
  | discrete
  | geogebra
  | optimization
  | cas
  | spatial
  | financial
  | english
deriving DecidableEq

namespace Category

/-- Every category, in the order in which they are listed. -/
def all : List Category :=
  [.algebra, .geometry, .statistics, .probability, .function, .conic, .list, .vector,
    .transformation, .charts, .text, .logical, .scripting, .discrete, .geogebra, .optimization,
    .cas, .spatial, .financial, .english]

/-- The name of a category for programs. -/
def tag : Category → String
  | .algebra => "ALGEBRA"
  | .geometry => "GEOMETRY"
  | .statistics => "STATISTICS"
  | .probability => "PROBABILITY"
  | .function => "FUNCTION"
  | .conic => "CONIC"
  | .list => "LIST"
  | .vector => "VECTOR"
  | .transformation => "TRANSFORMATION"
  | .charts => "CHARTS"
  | .text => "TEXT"
  | .logical => "LOGICAL"
  | .scripting => "SCRIPTING"
  | .discrete => "DISCRETE"
  | .geogebra => "GEOGEBRA"
  | .optimization => "OPTIMIZATION"
  | .cas => "CAS"
  | .spatial => "THREE_D"
  | .financial => "FINANCIAL"
  | .english => "ENGLISH"

/-- The name of a category for people. -/
def title : Category → String
  | .algebra => "Algebra"
  | .geometry => "Geometry"
  | .statistics => "Statistics"
  | .probability => "Probability"
  | .function => "Functions and Calculus"
  | .conic => "Conic"
  | .list => "List"
  | .vector => "Vector and Matrix"
  | .transformation => "Transformation"
  | .charts => "Charts"
  | .text => "Text"
  | .logical => "Logical"
  | .scripting => "Scripting"
  | .discrete => "Discrete Math"
  | .geogebra => "GeoGebra"
  | .optimization => "Optimization"
  | .cas => "CAS"
  | .spatial => "3D"
  | .financial => "Financial"
  | .english => "English"

/-- The category with a tag or title, whatever the case of its ASCII letters and the blanks around
it. -/
def find? (name : String) : Option Category :=
  let wanted := Text.trimmed name
  all.find? fun c => Text.sameIgnoringCase c.tag wanted || Text.sameIgnoringCase c.title wanted

theorem mem_all (c : Category) : c ∈ all := by cases c <;> decide

end Category

end GeoScript
