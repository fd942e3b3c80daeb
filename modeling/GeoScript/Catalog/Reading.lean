import GeoScript.Catalog.Category
import GeoScript.Fault.Basic

/-! # Reading the name of a category

The category that a name stands for, or the fault of a name that stands for none. -/

namespace GeoScript

/-- The category with a tag or title. A name that is neither is reported without the blanks around
it. -/
def Category.read (name : String) : Except Fault Category :=
  match Category.find? name with
  | some c => .ok c
  | none => .error (.invalidInput (.unknownCategory (Text.trimmed name)))

end GeoScript
