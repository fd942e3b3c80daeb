import GeoScript.Proofs.Reading.Displayed

/-! # Leaves, calls and labels

An expression without labels is an argument in a node of its own, whose kind follows from the value
and, for a text, from whether it looks like a tuple (`exprOf`). A label stands in front of what it
labels, in the text of a call as in that of an assignment, and is read from there.

* `readUnlabelled_eq`: an expression without labels is read as an argument is.
* `display_label`, `readTrimmed_label_eq`: writing and reading a label.
* `Expr.read_label_eq`: a text with a label in front. -/

namespace GeoScript

namespace Syntax

/-! ### Expressions without labels -/

/-- The expression without labels that has a value, by the looks of the text it was read from. -/
def exprOf (cs : List Char) : Value → Expr
  | .number n => .leaf .number (.number n)
  | .point p => .leaf .point (.point p)
  | .list items => .leaf .list (.list items)
  | .text s => .leaf (if isTuple cs then .point else .identifier) (.text s)
  | .expr e => e

/-- **An expression without labels is read as an argument is,** and put in a node. -/
theorem readUnlabelled_eq (cs : List Char) :
    readUnlabelled .empty cs = (readArgument .empty cs).map (exprOf cs) := by
  rw [readUnlabelled, readArgument_eq]
  cases hf : Form.of cs with
  | error problem => rfl
  | ok f =>
    have htells := Form.tells_of hf
    simp only [bind, Except.bind]
    cases f with
    | number n => rfl
    | tuple =>
      simp only [Except.map, tupleValue]
      split
      · rfl
      · simp only [exprOf, Form.Tells] at htells ⊢
        rw [htells]
        rfl
    | list items =>
      dsimp only
      cases items.mapM (readArgument .empty) <;> rfl
    | call name arguments =>
      dsimp only
      cases arguments.mapM (readArgument .empty) <;> rfl
    | word =>
      simp only [Form.Tells] at htells
      simp only [Except.map, wordValue, Table.get?_empty, Option.getD_none, exprOf, htells]
      rfl

theorem display_exprOf (cs : List Char) (v : Value) : (exprOf cs v).display = v.display := by
  cases v with
  | text s => simp only [exprOf]; split <;> simp [Expr.leaf, Expr.display, Value.display]
  | number n => simp [exprOf, Expr.leaf, Expr.display, Value.display]
  | point p => simp [exprOf, Expr.leaf, Expr.display, Value.display]
  | list items => simp [exprOf, Expr.leaf, Expr.display, Value.display]
  | expr e => simp [exprOf, Value.display]

theorem display_text_of_readArgument {cs : List Char} {s : String}
    (h : readArgument .empty cs = .ok (.text s)) : (Value.text s).display = cs := by
  rw [readArgument_eq] at h
  cases hf : Form.of cs with
  | error problem => rw [hf] at h; cases h
  | ok f =>
    rw [hf] at h
    cases f with
    | number n => cases h
    | tuple =>
      simp only [Except.bind, tupleValue] at h
      split at h <;> cases h
      exact String.toList_ofList
    | list items =>
      simp only [Except.bind] at h
      cases hvs : items.mapM (readArgument .empty) <;> rw [hvs] at h <;> cases h
    | call name arguments =>
      simp only [Except.bind] at h
      cases hvs : arguments.mapM (readArgument .empty) <;> rw [hvs] at h <;> cases h
    | word =>
      cases h
      exact String.toList_ofList

/-- A value gets the same node from its own text as from the text that it was read from. -/
theorem exprOf_display {cs : List Char} {v : Value} (h : readArgument .empty cs = .ok v) :
    exprOf v.display v = exprOf cs v := by
  cases v with
  | text s => rw [display_text_of_readArgument h]
  | number n => rfl
  | point p => rfl
  | list items => rfl
  | expr e => rfl

/-! ### Expressions with labels -/

theorem not_unlabelled_label (name : String) (e : Expr) :
    ¬ ((label name e).kind = .command ∧ (label name e).label = none) := by
  unfold label
  split
  · rintro ⟨-, h⟩
    cases h
  · rintro ⟨h, -⟩
    cases h

theorem display_assignment_of_label {name : String} {e : Expr}
    (h : ¬ (e.kind = .command ∧ e.label = none)) :
    (label name e).display = name.toList ++ [' ', '=', ' '] ++ e.display := by
  rw [label, if_neg h, Expr.display_assignment]

theorem display_label {name : String} {e : Expr} (h : Shaped e) :
    (label name e).display = name.toList ++ [' ', '=', ' '] ++ e.display := by
  cases h with
  | unlabelled h =>
    cases h with
    | call command vs =>
      have hvs := Expr.arguments_command command vs
      simp only [Expr.arguments, Expr.command] at hvs
      rw [label, if_pos ⟨rfl, rfl⟩, Expr.display_command]
      simp only [Expr.withLabel, Expr.command, Expr.display, labelled, Expr.displayValues_eq_map,
        hvs]
    | leaf v hc _ => exact display_assignment_of_label fun hk => hc hk.1
  | labelled _ h => exact display_assignment_of_label (not_unlabelled_label _ _)

/-- **A label is read from the text in front of the equals sign,** whatever is read after it. -/
theorem readTrimmed_label_eq {vars : Variables} {name rest : List Char}
    (hname : isIdentifier name = true) (hrest : Text.trim rest ≠ []) :
    readTrimmed vars (name ++ [' ', '=', ' '] ++ rest) =
      (readTrimmed vars (Text.trim rest)).map (label (String.ofList name)) := by
  have hplain : Tidies [] (name ++ [' ']) := by
    refine .of_isPlain_right fun c hc => ?_
    rcases List.mem_append.1 hc with hc | hc
    · exact isPlain_of_mem_identifier hname c hc
    · rw [List.mem_singleton.1 hc]
      decide
  have havoid : Avoids true IsEquals Nesting.outside (name ++ [' ']) :=
    avoids_of_tidies hplain not_isPlain_of_isEquals isSound_outside trivial
  have hequals : IsEquals (Nesting.outside.walk true (name ++ [' '])) '=' := by
    rw [walk_eq_of_tidies hplain true isSound_outside]
    exact ⟨rfl, rfl⟩
  have hsplit : splitAtEquals Nesting.outside (name ++ [' ', '=', ' '] ++ rest) =
      some (name ++ [' '], ' ' :: rest) := by
    rw [← splitAtEquals_append _ havoid hequals]
    simp
  have htrim : Text.trim (name ++ [' ']) = name :=
    Text.trim_blanks [] [' '] (tight_of_isIdentifier hname) (by simp)
      (List.forall_mem_singleton.mpr rfl)
  have htrim' : Text.trim (' ' :: rest) = Text.trim rest := rfl
  have hne := (tight_of_isIdentifier hname).ne_nil
  rw [readTrimmed_eq, if_neg (by simp), hsplit]
  simp only [htrim, htrim', hname]
  simp [hne, hrest]

theorem readTrimmed_labelled {vars : Variables} {name rest : List Char} {e : Expr}
    (hname : isIdentifier name = true) (htight : Text.Tight rest)
    (h : readTrimmed vars rest = .ok e) :
    readTrimmed vars (name ++ [' ', '=', ' '] ++ rest) = .ok (label (String.ofList name) e) := by
  have htrim := Text.trim_of_tight htight
  rw [readTrimmed_label_eq hname (by rw [htrim]; exact htight.ne_nil), htrim, h]
  rfl

end Syntax

/-! ### Texts with a label in front -/

section LabelInFront

variable {name text : String} (hname : Syntax.isIdentifier name.toList = true)
  (htext : Text.isEmptyText text = false)

include hname htext

theorem Text.trim_label_eq : ∃ rest, Text.trim rest = Text.trim text.toList ∧
    Text.trim (name ++ " = " ++ text).toList = name.toList ++ [' ', '=', ' '] ++ rest := by
  have htight : Text.Tight (Text.trim text.toList) :=
    Text.tight_trim (by simpa [Text.isEmptyText] using htext)
  obtain ⟨before, after, hsplit, hbefore, hafter⟩ := Text.exists_blanks text.toList
  refine ⟨before ++ Text.trim text.toList, ?_, ?_⟩
  · have htrim := Text.trim_blanks before [] htight hbefore (by simp)
    rwa [List.append_nil] at htrim
  · have htight' := (Syntax.tight_of_isIdentifier hname).append htight ([' ', '=', ' '] ++ before)
    have htrim := Text.trim_blanks [] after htight' (by simp) hafter
    have hlist : (name ++ " = " ++ text).toList = [] ++
        (name.toList ++ ([' ', '=', ' '] ++ before) ++ Text.trim text.toList) ++ after := by
      conv_lhs => rw [String.toList_append, String.toList_append, hsplit]
      simp
    rw [hlist, htrim]
    simp

theorem Text.isEmptyText_label_eq : Text.isEmptyText (name ++ " = " ++ text) = false := by
  obtain ⟨rest, -, htrim⟩ := Text.trim_label_eq hname htext
  rw [Text.isEmptyText, htrim]
  simp

/-- **A text with a label in front is read as the text is,** and the label is put on it. -/
theorem Expr.read_label_eq (vars : Syntax.Variables) :
    Expr.read vars (name ++ " = " ++ text) =
      (Expr.read vars text).map (Syntax.label name) := by
  obtain ⟨rest, hrest, htrim⟩ := Text.trim_label_eq hname htext
  have hne : Text.trim rest ≠ [] := by
    rw [hrest]
    simpa [Text.isEmptyText] using htext
  unfold Expr.read
  rw [htrim, Syntax.readTrimmed_label_eq hname hne, hrest, String.ofList_toList]
  cases Syntax.readTrimmed vars (Text.trim text.toList) <;> rfl

end LabelInFront

end GeoScript
