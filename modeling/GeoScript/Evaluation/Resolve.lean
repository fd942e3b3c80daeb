import GeoScript.Syntax.Form

/-! # Resolving arguments

Before a command is computed, texts among its arguments that read as tuples or numbers become
points and numbers, at every depth of its lists. Calls among the arguments stay as they are: they
are not evaluated. -/

namespace GeoScript

/-- The value that a text reads as, or the text itself. A text that looks like a tuple is a point
or nothing else. -/
def resolveText (s : String) : Value :=
  let cs := Text.trim s.toList
  if Syntax.isTuple cs then
    match Syntax.readPoint? cs with
    | some p => .point p
    | none => .text s
  else
    match Number.read? cs with
    | some n => .number n
    | none => .text s

mutual

/-- A value with the texts in it resolved. -/
def Value.resolve : Value → Value
  | .text s => resolveText s
  | .list items => .list (Value.resolveAll items)
  | .number n => .number n
  | .point p => .point p
  | .expr e => .expr e

/-- Some values with the texts in them resolved. -/
def Value.resolveAll : List Value → List Value
  | [] => []
  | v :: vs => v.resolve :: Value.resolveAll vs

end

theorem Value.resolveAll_eq_map (vs : List Value) : Value.resolveAll vs = vs.map Value.resolve := by
  induction vs with
  | nil => rfl
  | cons v vs ih => simp [Value.resolveAll, ih]

theorem Value.length_resolveAll (vs : List Value) : (Value.resolveAll vs).length = vs.length := by
  simp [Value.resolveAll_eq_map]

end GeoScript
