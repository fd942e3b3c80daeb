import GeoScript.Number

/-! # Data

Structured data as it is written to and read from texts: results of evaluations, and session
profiles. A record keeps its fields in order and may name one twice; whether it may is for the
reader of the data to say. -/

namespace GeoScript

/-- Structured data. -/
inductive Data where
  | null
  | bool (b : Bool)
  | int (n : Int)
  | float (x : Float)
  | text (s : String)
  /-- A date or a time, which no rule of this library looks into. -/
  | date
  | list (items : List Data)
  | record (fields : List (String × Data))

namespace Data

/-- A number. -/
def ofNumber : Number → Data
  | .int n => .int n.toInt
  | .float x => .float x

/-- What a field holds, if the data are a record with this field; the first one of its name. -/
def field? (name : String) : Data → Option Data
  | .record fields => fields.lookup name
  | _ => none

end Data

end GeoScript
