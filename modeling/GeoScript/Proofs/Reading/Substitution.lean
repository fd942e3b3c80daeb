import GeoScript.Proofs.Reading.Displayed

/-! # Variables stand for their values

Reading a text with the values of some variables is reading it without any and then putting the
values in the places of their names. Variables have no say in anything else: not in how a text falls
into parts, not in what is wrong with it, not in where its labels go.

* `Expr.substitute`, `Value.substitute`: the values in the places of their names, once. A name at
  the root of an expression becomes a node for the value, and one among arguments and items becomes
  the value itself.
* `readArgument_substitute`, `readUnlabelled_substitute`, `readTrimmed_substitute`: arguments, by
  induction on the length of the text, expressions without labels, and labels.
* `Expr.read_substitute`: the main statement. -/

namespace GeoScript

/-! ### Values in the places of their names -/

mutual

/-- The expression with values in the places of names. Labels and names of commands are no names of
variables, and what a node of another kind holds is left alone. -/
def Expr.substitute (vars : Syntax.Variables) : Expr → Expr
  | { kind := .identifier, value := some (.text name), label, children } =>
    match vars.get? name with
    | some v => { kind := .variable, value := some v, label, children }
    | none => { kind := .identifier, value := some (.text name), label, children }
  | { kind := .assignment, value := some (.expr rhs), label, children } =>
    { kind := .assignment, value := some (.expr (rhs.substitute vars)), label, children }
  | { kind := .list, value := some (.list items), label, children } =>
    { kind := .list, value := some (.list (Value.substituteAll vars items)), label, children }
  | { kind := .argument, value := some v, label, children } =>
    { kind := .argument, value := some (v.substitute vars), label, children }
  | { kind := .command, value, label, children } =>
    { kind := .command, value, label, children := Expr.substituteAll vars children }
  | e => e

/-- Some expressions with values in the places of names. -/
def Expr.substituteAll (vars : Syntax.Variables) : List Expr → List Expr
  | [] => []
  | e :: es => e.substitute vars :: Expr.substituteAll vars es

/-- An argument or an item with values in the places of names. What looks like a tuple is not a
name, and a value that has been put in is not looked at again. -/
def Value.substitute (vars : Syntax.Variables) : Value → Value
  | .text name =>
    if Syntax.isTuple name.toList then .text name else (vars.get? name).getD (.text name)
  | .list items => .list (Value.substituteAll vars items)
  | .expr e => .expr (e.substitute vars)
  | .number n => .number n
  | .point p => .point p

/-- Some arguments or items with values in the places of names. -/
def Value.substituteAll (vars : Syntax.Variables) : List Value → List Value
  | [] => []
  | v :: vs => v.substitute vars :: Value.substituteAll vars vs

end

theorem Value.substituteAll_eq_map (vars : Syntax.Variables) (vs : List Value) :
    Value.substituteAll vars vs = vs.map (Value.substitute vars) := by
  induction vs with
  | nil => rfl
  | cons v vs ih => rw [Value.substituteAll, ih, List.map_cons]

theorem Expr.substituteAll_arguments (vars : Syntax.Variables) (vs : List Value) :
    Expr.substituteAll vars (vs.map (Expr.leaf .argument)) =
      (vs.map (Value.substitute vars)).map (Expr.leaf .argument) := by
  induction vs with
  | nil => rfl
  | cons v vs ih =>
    rw [List.map_cons, Expr.substituteAll, ih]
    rfl

@[simp] theorem Expr.substitute_command (vars : Syntax.Variables) (name : String)
    (arguments : List Value) :
    (Expr.command name arguments).substitute vars =
      .command name (arguments.map (Value.substitute vars)) := by
  simp only [Expr.command, Expr.substitute, Expr.substituteAll_arguments]

theorem Expr.label_substitute (vars : Syntax.Variables) (e : Expr) :
    (e.substitute vars).label = e.label := by
  unfold Expr.substitute
  split
  · split <;> rfl
  all_goals rfl

theorem Expr.kind_substitute_eq_command_iff (vars : Syntax.Variables) (e : Expr) :
    (e.substitute vars).kind = .command ↔ e.kind = .command := by
  unfold Expr.substitute
  split
  · split <;> simp
  all_goals rfl

namespace Syntax

/-- A label goes to the same place, because what it goes by does not change. -/
theorem substitute_label (vars : Variables) (name : String) (e : Expr) :
    (label name e).substitute vars = label name (e.substitute vars) := by
  unfold label
  simp only [Expr.kind_substitute_eq_command_iff, Expr.label_substitute]
  split
  · next h =>
    obtain ⟨kind, value, l, children⟩ := e
    obtain ⟨rfl, rfl⟩ := h
    simp only [Expr.withLabel, Expr.substitute]
  · simp only [Expr.assignment, Expr.substitute]

/-! ### Reading -/

theorem substitute_tupleValue (vars : Variables) {cs : List Char} (h : isTuple cs = true) :
    (tupleValue cs).substitute vars = tupleValue cs := by
  unfold tupleValue
  split
  · rfl
  · rw [Value.substitute, String.toList_ofList, if_pos h]

/-- **An argument is read with variables as it is read without,** and then they are put in. By
induction on the length of the text. -/
theorem readArgument_substitute (vars : Variables) (cs : List Char) :
    readArgument vars cs = (readArgument .empty cs).map (Value.substitute vars) := by
  rw [readArgument_eq, readArgument_eq]
  cases hf : Form.of cs with
  | error problem => rfl
  | ok f =>
    have htells := Form.tells_of hf
    have hparts : ∀ p ∈ f.parts,
        readArgument vars p = (readArgument .empty p).map (Value.substitute vars) := by
      intro p hp
      have hlt := Form.length_lt_of_mem hf hp
      exact readArgument_substitute vars p
    simp only [Except.bind]
    cases f with
    | number n => rfl
    | tuple =>
      simp only [Except.map, substitute_tupleValue vars htells]
    | word =>
      simp only [Form.Tells] at htells
      simp only [Except.map, wordValue, Table.get?_empty, Option.getD_none, Value.substitute,
        String.toList_ofList, htells, Bool.false_eq_true, if_false]
    | list items =>
      dsimp only
      rw [mapM_eq_map_mapM (l := items) hparts]
      cases items.mapM (readArgument .empty) with
      | error problem => rfl
      | ok vs => simp only [Except.map, Value.substitute, Value.substituteAll_eq_map]
    | call name arguments =>
      dsimp only
      rw [mapM_eq_map_mapM (l := arguments) hparts]
      cases arguments.mapM (readArgument .empty) with
      | error problem => rfl
      | ok vs => simp only [Except.map, Value.substitute, Expr.substitute_command]
termination_by cs.length

theorem readUnlabelled_substitute (vars : Variables) (cs : List Char) :
    readUnlabelled vars cs = (readUnlabelled .empty cs).map (Expr.substitute vars) := by
  unfold readUnlabelled
  cases hf : Form.of cs with
  | error problem => rfl
  | ok f =>
    have htells := Form.tells_of hf
    simp only [bind, Except.bind]
    cases f with
    | number n => rfl
    | tuple => rfl
    | word =>
      simp only [Table.get?_empty, Except.map, Expr.leaf, Expr.substitute, pure, Except.pure]
      cases vars.get? (String.ofList cs) <;> rfl
    | list items =>
      dsimp only
      rw [mapM_eq_map_mapM fun p _ => readArgument_substitute vars p]
      cases items.mapM (readArgument .empty) with
      | error problem => rfl
      | ok vs =>
        simp only [Except.map, pure, Except.pure, Expr.leaf, Expr.substitute,
          Value.substituteAll_eq_map]
    | call name arguments =>
      dsimp only
      rw [mapM_eq_map_mapM fun p _ => readArgument_substitute vars p]
      cases arguments.mapM (readArgument .empty) with
      | error problem => rfl
      | ok vs => simp only [Except.map, pure, Except.pure, Expr.substitute_command]

/-- Labels are read before variables are looked at. -/
theorem readTrimmed_substitute (vars : Variables) (cs : List Char) :
    readTrimmed vars cs = (readTrimmed .empty cs).map (Expr.substitute vars) := by
  rw [readTrimmed_eq, readTrimmed_eq]
  split
  · rfl
  · split
    · exact readUnlabelled_substitute vars cs
    · next before after hsplit =>
      split
      · rfl
      · split
        · rfl
        · have hlt : (Text.trim after).length < cs.length := by
            have h1 := length_of_splitAtEquals hsplit
            have h2 := Text.length_trim_le after
            omega
          rw [readTrimmed_substitute vars (Text.trim after)]
          cases readTrimmed .empty (Text.trim after) with
          | error problem => rfl
          | ok e => simp only [Except.map, substitute_label]
termination_by cs.length

end Syntax

/-- **Looking variables up is putting their values in.** Every text is read with variables as it is
read without, to the same fault or to the same expression with the values in the places of the
names. -/
theorem Expr.read_substitute (vars : Syntax.Variables) (text : String) :
    Expr.read vars text = (Expr.read .empty text).map (Expr.substitute vars) := by
  unfold Expr.read
  rw [Syntax.readTrimmed_substitute]
  cases Syntax.readTrimmed .empty (Text.trim text.toList) <;> rfl

/-- The name of a variable in a list, in a tuple, as a command, and as a label. Its value is the
name of another one. -/
example :
    Expr.read (.insert (.insert .empty "y" (.text "z")) "x" (.text "y")) "x = f([x], (x,1), x(x))" =
      .ok ((Expr.command "f" [.list [.text "y"], .text "(x,1)",
        .expr (.command "x" [.text "y"])]).withLabel "x") := by
  cbv

end GeoScript
