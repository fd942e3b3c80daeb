import GeoScript.Expr.Basic

/-! # Showing values and expressions

The text of a value or an expression, as it stands in messages. For what the reader builds it is
the normal form of the text that was read: one space after each comma, none elsewhere, numbers in
their shortest form. Texts stand for themselves, so the text of a tree put together by hand need
not be readable.

Everything is written as a list of characters; `Value.render` and `Expr.render` make strings. -/

namespace GeoScript

/-- Items with a comma and a space between them. -/
def commaSeparated : List (List Char) → List Char
  | [] => []
  | [t] => t
  | t :: ts => t ++ [',', ' '] ++ commaSeparated ts

/-- A point as the tuple of its coordinates. -/
def Coordinates.display (p : Coordinates) : List Char :=
  let zs := match p.z with
    | none => []
    | some z => [Decimal.displayText z]
  ['('] ++ commaSeparated ([Decimal.displayText p.x, Decimal.displayText p.y] ++ zs) ++ [')']

/-- Text with a label in front of it, if there is one. -/
def labelled (label : Option String) (text : List Char) : List Char :=
  match label with
  | none => text
  | some l => l.toList ++ [' ', '=', ' '] ++ text

mutual

/-- The text of an expression: an assignment with its label, a command with its label, if it has
one, its name and its arguments, and any other node as its value. -/
def Expr.display : Expr → List Char
  | { kind := .assignment, value := some (.expr rhs), label, children := _ } =>
    (label.getD "").toList ++ [' ', '=', ' '] ++ rhs.display
  | { kind := .command, value := some (.text name), label, children } =>
    labelled label (name.toList ++ ['('] ++ commaSeparated (Expr.displayValues children) ++ [')'])
  | { kind := _, value := some v, label := _, children := _ } => v.display
  | { kind := _, value := none, label := _, children := _ } => []

/-- The texts of the values of some nodes. -/
def Expr.displayValues : List Expr → List (List Char)
  | [] => []
  | { kind := _, value := some v, label := _, children := _ } :: es =>
    v.display :: Expr.displayValues es
  | { kind := _, value := none, label := _, children := _ } :: es => Expr.displayValues es

/-- The text of a value. -/
def Value.display : Value → List Char
  | .number n => n.display
  | .point p => p.display
  | .list items => ['['] ++ commaSeparated (Value.displayAll items) ++ [']']
  | .text s => s.toList
  | .expr e => e.display

/-- The texts of some values. -/
def Value.displayAll : List Value → List (List Char)
  | [] => []
  | v :: vs => v.display :: Value.displayAll vs

end

/-- The text of a value as a string. -/
def Value.render (v : Value) : String := String.ofList v.display

/-- The text of an expression as a string. -/
def Expr.render (e : Expr) : String := String.ofList e.display

/-! ### The shapes that the reader builds -/

theorem Value.displayAll_eq_map (vs : List Value) : Value.displayAll vs = vs.map Value.display := by
  induction vs with
  | nil => rfl
  | cons v vs ih => simp [Value.displayAll, ih]

theorem Expr.displayValues_eq_map (es : List Expr) :
    Expr.displayValues es = (es.filterMap Expr.value).map Value.display := by
  induction es with
  | nil => rfl
  | cons e es ih =>
    obtain ⟨kind, value, label, children⟩ := e
    cases value <;> simp [Expr.displayValues, ih]

theorem Expr.display_command (name : String) (arguments : List Value) :
    (Expr.command name arguments).display =
      name.toList ++ ['('] ++ commaSeparated (arguments.map Value.display) ++ [')'] := by
  have h := Expr.arguments_command name arguments
  simp only [Expr.arguments, Expr.command] at h
  simp only [Expr.command, Expr.display, labelled, Expr.displayValues_eq_map, h]

theorem Expr.display_assignment (label : String) (rhs : Expr) :
    (Expr.assignment label rhs).display = label.toList ++ [' ', '=', ' '] ++ rhs.display := by
  simp [Expr.assignment, Expr.display]

theorem Expr.display_leaf_number (v : Value) : (Expr.leaf .number v).display = v.display := by
  simp [Expr.leaf, Expr.display]

end GeoScript
