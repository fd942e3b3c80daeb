import GeoScript.Proofs.Reading.Displayed

/-! # The trees that are read

Every expression that is read has one of a few shapes, and each node of it holds what its kind calls
for. A label goes onto a call that has none, and makes an assignment of everything else. What stands
among arguments and items has a shape too, but for the values of variables, which are taken as they
are.

* `AcceptedValue`: the values of arguments and items.
* `Accepted`: expressions, each with the text that it is read from.
* `Expr.accepted_of_read`: whatever is read has such a shape.
* `Accepted.kind_ne_argument`: the nodes of arguments do not stand for themselves. -/

namespace GeoScript

namespace Syntax

/-! ### Shapes -/

/-- Numbers, points, texts, lists and calls without labels, nested in any way, and the values of
variables, whatever they are. -/
inductive AcceptedValue (vars : Variables) : Value → Prop
  | number (n : Number) : AcceptedValue vars (.number n)
  | point (p : Coordinates) : AcceptedValue vars (.point p)
  | text (s : String) : AcceptedValue vars (.text s)
  | list {items : List Value} (h : ∀ v ∈ items, AcceptedValue vars v) :
      AcceptedValue vars (.list items)
  | call {name : String} {arguments : List Value} (hname : isIdentifier name.toList = true)
      (h : ∀ v ∈ arguments, AcceptedValue vars v) :
      AcceptedValue vars (.expr (.command name arguments))
  | variable {name : String} {v : Value} (h : vars.get? name = some v) : AcceptedValue vars v

/-- The expressions that are read from a trimmed text: calls, with a label or without, leaves that
hold what their kind calls for, and assignments. What is assigned is not a call without a label. -/
inductive Accepted (vars : Variables) : List Char → Expr → Prop
  | call {cs : List Char} {name : String} {arguments : List Value}
      (hname : isIdentifier name.toList = true) (h : ∀ v ∈ arguments, AcceptedValue vars v) :
      Accepted vars cs (.command name arguments)
  | number {cs : List Char} (n : Number) : Accepted vars cs (.leaf .number (.number n))
  | point {cs : List Char} (p : Coordinates) : Accepted vars cs (.leaf .point (.point p))
  | tuple {cs : List Char} (h : isTuple cs = true) :
      Accepted vars cs (.leaf .point (.text (String.ofList cs)))
  | list {cs : List Char} {items : List Value} (h : ∀ v ∈ items, AcceptedValue vars v) :
      Accepted vars cs (.leaf .list (.list items))
  | variable {cs : List Char} {v : Value} (h : vars.get? (String.ofList cs) = some v) :
      Accepted vars cs (.leaf .variable v)
  | identifier {cs : List Char} : Accepted vars cs (.leaf .identifier (.text (String.ofList cs)))
  | labelledCall {cs before after : List Char} {name : String} {arguments : List Value}
      (hsplit : splitAtEquals Nesting.outside cs = some (before, after))
      (hlabel : isIdentifier (Text.trim before) = true)
      (h : Accepted vars (Text.trim after) (.command name arguments)) :
      Accepted vars cs ((Expr.command name arguments).withLabel (String.ofList (Text.trim before)))
  | assignment {cs before after : List Char} {rhs : Expr}
      (hsplit : splitAtEquals Nesting.outside cs = some (before, after))
      (hlabel : isIdentifier (Text.trim before) = true) (h : Accepted vars (Text.trim after) rhs)
      (hne : ¬ (rhs.kind = .command ∧ rhs.label = none)) :
      Accepted vars cs (.assignment (String.ofList (Text.trim before)) rhs)

section Accepted

variable {vars : Variables} {cs : List Char} {e : Expr}

theorem Accepted.kind_ne_argument (h : Accepted vars cs e) : e.kind ≠ .argument := by
  cases h <;> exact fun hkind => by cases hkind

theorem Accepted.eq_command (h : Accepted vars cs e) (hkind : e.kind = .command)
    (hlabel : e.label = none) : ∃ name arguments, e = .command name arguments := by
  cases h with
  | call hname h => exact ⟨_, _, rfl⟩
  | labelledCall hsplit hname h => cases hlabel
  | _ => cases hkind

theorem Accepted.label {before after : List Char}
    (hsplit : splitAtEquals Nesting.outside cs = some (before, after))
    (hlabel : isIdentifier (Text.trim before) = true) (h : Accepted vars (Text.trim after) e) :
    Accepted vars cs (Syntax.label (String.ofList (Text.trim before)) e) := by
  unfold Syntax.label
  split
  · next hcall =>
    obtain ⟨name, arguments, rfl⟩ := h.eq_command hcall.1 hcall.2
    exact .labelledCall hsplit hlabel h
  · next hne => exact .assignment hsplit hlabel h hne

/-! ### Reading -/

theorem isIdentifier_of_call {name : String} {arguments : List (List Char)}
    (hf : Form.of cs = .ok (.call name arguments)) : isIdentifier name.toList = true := by
  obtain ⟨head, after, inside, hhead, -, rfl, -⟩ := Form.tells_of hf
  rw [String.toList_ofList]
  exact (callHead?_cases hhead).1

theorem acceptedValues_of_mapM {parts : List (List Char)} {vs : List Value}
    (hvs : parts.mapM (readArgument vars) = .ok vs)
    (h : ∀ p ∈ parts, ∀ v, readArgument vars p = .ok v → AcceptedValue vars v) :
    ∀ v ∈ vs, AcceptedValue vars v := by
  intro v hv
  obtain ⟨p, hp, hread⟩ := (mem_of_mapM_ok hvs v).mp hv
  exact h p hp v hread

end Accepted

/-- **The value of an argument,** by induction on the length of its text. -/
theorem acceptedValue_of_readArgument {vars : Variables} {cs : List Char} {v : Value}
    (h : readArgument vars cs = .ok v) : AcceptedValue vars v := by
  rw [readArgument_eq] at h
  cases hf : Form.of cs with
  | error problem =>
    rw [hf] at h
    cases h
  | ok f =>
    have hparts : ∀ p ∈ f.parts, ∀ v, readArgument vars p = .ok v → AcceptedValue vars v := by
      intro p hp v hv
      have hlt := Form.length_lt_of_mem hf hp
      exact acceptedValue_of_readArgument hv
    rw [hf] at h
    simp only [Except.bind] at h
    cases f with
    | number n =>
      cases h
      exact .number n
    | tuple =>
      cases h
      unfold tupleValue
      split
      · exact .point _
      · exact .text _
    | list items =>
      obtain ⟨vs, hvs, rfl⟩ := ok_of_map h
      exact .list (acceptedValues_of_mapM hvs hparts)
    | call name arguments =>
      obtain ⟨vs, hvs, rfl⟩ := ok_of_map h
      exact .call (isIdentifier_of_call hf) (acceptedValues_of_mapM hvs hparts)
    | word =>
      cases h
      unfold wordValue
      cases hget : vars.get? (String.ofList cs) with
      | none => exact .text _
      | some v => exact .variable hget
termination_by cs.length

theorem accepted_of_readUnlabelled {vars : Variables} {cs : List Char} {e : Expr}
    (h : readUnlabelled vars cs = .ok e) : Accepted vars cs e := by
  have hparts : ∀ {parts : List (List Char)} {vs : List Value},
      parts.mapM (readArgument vars) = .ok vs → ∀ v ∈ vs, AcceptedValue vars v :=
    fun hvs => acceptedValues_of_mapM hvs fun _ _ _ => acceptedValue_of_readArgument
  cases readAs_of_readUnlabelled h with
  | number hf => exact .number _
  | tuple hf =>
    unfold tupleValue
    split
    · exact .point _
    · exact .tuple (Form.tells_of hf)
  | list hf hvs => exact .list (hparts hvs)
  | call hf hvs => exact .call (isIdentifier_of_call hf) (hparts hvs)
  | bound hf hget => exact .variable hget
  | unbound hf hget => exact .identifier

/-- Labels are taken off one by one. -/
theorem accepted_of_readTrimmed {vars : Variables} {cs : List Char} {e : Expr}
    (h : readTrimmed vars cs = .ok e) : Accepted vars cs e := by
  refine readTrimmed_induction (motive := Accepted vars) ?_ ?_ h
  · intro cs e _ hu
    exact accepted_of_readUnlabelled hu
  · intro cs before after e hsplit hlabel _ ih
    exact ih.label hsplit hlabel

end Syntax

/-- **Every expression that is read has one of the shapes,** from its trimmed text. -/
theorem Expr.accepted_of_read {vars : Syntax.Variables} {text : String} {e : Expr}
    (h : Expr.read vars text = .ok e) : Syntax.Accepted vars (Text.trim text.toList) e :=
  Syntax.accepted_of_readTrimmed (readTrimmed_of_read h)

end GeoScript
