import GeoScript.Syntax.Form
import GeoScript.Table

/-! # Reading expressions

An expression is one line of text: any number of labels, each followed by an equals sign, and then
a call of a command, a number, a tuple, a list or a word. Words that the session has bound to a
value stand for that value, at the root of an expression and among the arguments of calls and the
items of lists; the values themselves are not read again.

* `readArgument`: the value of an argument or an item.
* `readUnlabelled`: an expression without labels.
* `readTrimmed`, `Expr.read`: an expression with its labels.

`readArgument_eq` and `readTrimmed_eq` are the defining equations, free of the measure by which the
recursion ends. -/

namespace GeoScript.Syntax

/-- The values of variables. -/
abbrev Variables := Table Value

/-- The value of a word among arguments: that of a variable, or else the word itself. -/
def wordValue (vars : Variables) (word : String) : Value := (vars.get? word).getD (.text word)

/-- The value of an argument or an item. -/
def readArgument (vars : Variables) (cs : List Char) : Except InputProblem Value :=
  match _h : Form.of cs with
  | .error problem => .error problem
  | .ok (.number n) => .ok (.number n)
  | .ok .tuple => .ok (tupleValue cs)
  | .ok (.list items) => do return .list (← items.attach.mapM fun p => readArgument vars p.1)
  | .ok (.call name arguments) => do
    return .expr (.command name (← arguments.attach.mapM fun p => readArgument vars p.1))
  | .ok .word => .ok (wordValue vars (String.ofList cs))
termination_by cs.length
decreasing_by
  · exact Form.length_lt_of_mem _h p.2
  · exact Form.length_lt_of_mem _h p.2

/-- An expression without labels. -/
def readUnlabelled (vars : Variables) (cs : List Char) : Except InputProblem Expr := do
  match ← Form.of cs with
  | .number n => return .leaf .number (.number n)
  | .tuple => return .leaf .point (tupleValue cs)
  | .list items => return .leaf .list (.list (← items.mapM (readArgument vars)))
  | .call name arguments => return .command name (← arguments.mapM (readArgument vars))
  | .word =>
    let word := String.ofList cs
    match vars.get? word with
    | some v => return .leaf .variable v
    | none => return .leaf .identifier (.text word)

/-- Puts a label on an expression. A command without a label takes it itself; everything else, a
labelled command too, becomes the right side of an assignment. -/
def label (name : String) (e : Expr) : Expr :=
  if e.kind = .command ∧ e.label = none then e.withLabel name else .assignment name e

/-- An expression with its labels, from a trimmed text that is not empty. -/
def readTrimmed (vars : Variables) (cs : List Char) : Except InputProblem Expr :=
  if cs.isEmpty then .error .emptyText
  else match _h : splitAtEquals Nesting.outside cs with
    | none => readUnlabelled vars cs
    | some (before, after) =>
      let name := Text.trim before
      let rhs := Text.trim after
      if name.isEmpty || rhs.isEmpty then .error (.invalidAssignment (String.ofList cs))
      else if !isIdentifier name then .error (.invalidLabel (String.ofList name))
      else (readTrimmed vars rhs).map (label (String.ofList name))
termination_by cs.length
decreasing_by
  have h1 := length_of_splitAtEquals _h
  have h2 := Text.length_trim_le after
  omega

/-! ### The defining equations -/

theorem mapM_attach {α : Type} {β : Type} {ε : Type} (l : List α) (f : α → Except ε β) :
    l.attach.mapM (fun p => f p.1) = l.mapM f := by
  have h := List.mapM_map (m := Except ε) (f := fun p : { x // x ∈ l } => p.1) (g := f)
    (l := l.attach)
  rw [List.attach_map_subtype_val] at h
  exact h.symm

theorem readArgument_eq (vars : Variables) (cs : List Char) :
    readArgument vars cs = (Form.of cs).bind fun
      | .number n => .ok (.number n)
      | .tuple => .ok (tupleValue cs)
      | .list items => (items.mapM (readArgument vars)).map .list
      | .call name arguments =>
        (arguments.mapM (readArgument vars)).map fun vs => .expr (.command name vs)
      | .word => .ok (wordValue vars (String.ofList cs)) := by
  rw [readArgument]
  split <;> rename_i h <;> rw [h] <;> simp only [Except.bind, mapM_attach]
  · cases List.mapM (readArgument vars) _ <;> rfl
  · cases List.mapM (readArgument vars) _ <;> rfl

theorem readTrimmed_eq (vars : Variables) (cs : List Char) :
    readTrimmed vars cs =
      if cs.isEmpty then .error .emptyText
      else match splitAtEquals Nesting.outside cs with
        | none => readUnlabelled vars cs
        | some (before, after) =>
          if (Text.trim before).isEmpty || (Text.trim after).isEmpty then
            .error (.invalidAssignment (String.ofList cs))
          else if !isIdentifier (Text.trim before) then
            .error (.invalidLabel (String.ofList (Text.trim before)))
          else
            (readTrimmed vars (Text.trim after)).map
              (label (String.ofList (Text.trim before))) := by
  rw [readTrimmed]
  split
  · rfl
  · split <;> rename_i h <;> rw [h]

end Syntax

/-- **Reads an expression.** -/
def Expr.read (vars : Syntax.Variables) (text : String) : Except Fault Expr :=
  (Syntax.readTrimmed vars (Text.trim text.toList)).mapError .invalidInput

end GeoScript
