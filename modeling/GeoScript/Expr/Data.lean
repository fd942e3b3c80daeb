import GeoScript.Data.Json
import GeoScript.Expr.Basic

/-! # Values and expressions as data

Numbers, texts and lists are their own data, a point is the list of its coordinates, and a node is
a record of its kind and of those of its other parts that it has. -/

namespace GeoScript

/-- The coordinates in order. -/
def Coordinates.toData (p : Coordinates) : Data :=
  .list ([.float p.x, .float p.y] ++ (p.z.map Data.float).toList)

/-- A field that is left out if it has no content. -/
def optionalField (name : String) : Option Data → List (String × Data)
  | none => []
  | some d => [(name, d)]

mutual

/-- An expression as data. -/
def Expr.toData : Expr → Data
  | { kind, value, label, children } =>
    .record
      ([("kind", .text kind.name)] ++ optionalField "value" (Expr.valueData value) ++
        optionalField "label" (label.map Data.text) ++
        match children with
        | [] => []
        | c :: cs => [("children", .list (c.toData :: Expr.allToData cs))])

/-- The value of a node as data, if it has one. -/
def Expr.valueData : Option Value → Option Data
  | none => none
  | some v => some v.toData

/-- Some expressions as data. -/
def Expr.allToData : List Expr → List Data
  | [] => []
  | e :: es => e.toData :: Expr.allToData es

/-- A value as data. -/
def Value.toData : Value → Data
  | .number n => Data.ofNumber n
  | .point p => p.toData
  | .list items => .list (Value.allToData items)
  | .text s => .text s
  | .expr e => e.toData

/-- Some values as data. -/
def Value.allToData : List Value → List Data
  | [] => []
  | v :: vs => v.toData :: Value.allToData vs

end

end GeoScript
