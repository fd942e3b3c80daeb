import GeoScript.Workspace

/-! # The expression under the labels

An evaluation that binds no labels, and may bind labels again, does not look at them: it has the
answer of the expression under all labels, and it leaves the construction alone. Every evaluation of
a text in a session is of this kind; the labels are bound afterwards.

* `Expr.root`: the expression under all labels.
* `evaluate_quiet`: the construction is left alone, and the answer is that of the root.
* `answer_evaluate_congr`: the answer does not depend on what is bound.
* `answer_evaluate_call`: the answer of an expression whose root is a call is that of the engine.
* `answer_evaluate_leaf`: the answer of any other does not depend on the engine. -/

namespace GeoScript

/-- The expression under all labels. -/
def Expr.root : Expr → Expr
  | { kind := .assignment, value := some (.expr rhs), label := some _, children := _ } => rhs.root
  | { kind := .command, value, label := _, children } =>
    { kind := .command, value, label := none, children }
  | e => e

theorem Expr.root_label (name : String) (e : Expr) : (Syntax.label name e).root = e.root := by
  obtain ⟨kind, value, l, children⟩ := e
  unfold Syntax.label
  split
  · next h =>
    obtain ⟨rfl, rfl⟩ := h
    rfl
  · rfl

/-! ### Labels that are not bound -/

section Quiet

variable {options : Options} (c : Construction)

theorem record_labelless (hl : options.labels = false) (label : String) (figures : List Figure) :
    record label figures options c =
      ⟨.ok (), c, [.note .trace "label output disabled, not recording" [("label", label)]]⟩ := by
  simp [record, hl]

theorem checkRedefinition_free (hr : options.redefinition = true) (label : String) :
    checkRedefinition label options c = ⟨.ok (), c, []⟩ := by
  simp [checkRedefinition, hr]

theorem evaluateCommand_quiet (hl : options.labels = false) (hr : options.redefinition = true)
    (engine : Engine) (value : Option Value) (label : Option String) (children : List Expr) :
    let e : Expr := { kind := .command, value, label := none, children }
    (evaluateCommand engine { e with label } options c).answer =
        (match e.commandName? with
          | none => .error (.invalidInput .namelessCommand)
          | some name => (engine.call name e.arguments options).answer) ∧
      (evaluateCommand engine { e with label } options c).state = c := by
  intro e
  have hname : Expr.commandName? { e with label } = e.commandName? := rfl
  unfold evaluateCommand
  rw [hname]
  cases e.commandName? with
  | none => exact ⟨rfl, rfl⟩
  | some name =>
    have hargs : Expr.arguments { e with label } = e.arguments := rfl
    simp only [Action.answer_bind, Action.state_bind, hargs]
    cases label with
    | none =>
      cases hcall : (engine.call name e.arguments options).answer with
      | error fault => simp [e, Option.forM, Action.ofTraced_apply, Except.bind, hcall]
      | ok figures => simp [e, Option.forM, Action.ofTraced_apply, Except.bind, hcall]
    | some l =>
      cases hcall : (engine.call name e.arguments options).answer with
      | error fault =>
        simp [e, Option.forM, checkRedefinition_free c hr, Except.bind, hcall]
      | ok figures =>
        simp [e, Option.forM, checkRedefinition_free c hr, record_labelless c hl, Except.bind,
          hcall]

/-- **An evaluation that binds no labels leaves the construction alone,** and its answer is that of
the expression under the labels. -/
theorem evaluate_quiet (hl : options.labels = false) (hr : options.redefinition = true)
    (engine : Engine) (e : Expr) :
    (evaluate engine options e c).state = c ∧
      (evaluate engine options e c).answer = (evaluate engine options e.root c).answer := by
  induction e using evaluate.induct with
  | case1 rhs l children ih =>
    obtain ⟨ihs, iha⟩ := ih
    rw [Expr.root, ← iha, evaluate, Action.state_bind, Action.answer_bind,
      checkRedefinition_free c hr]
    simp only [Except.bind, Action.state_bind, Action.answer_bind, ihs]
    cases (evaluate engine options rhs c).answer with
    | error fault => exact ⟨rfl, rfl⟩
    | ok figures => simp [record_labelless c hl]
  | case2 value label children hmalformed =>
    have hroot : Expr.root { kind := .assignment, value, label, children } =
        { kind := .assignment, value, label, children } := by
      rw [Expr.root]
      · intro rhs l children h
        cases h
        exact hmalformed rhs l rfl rfl
      · intro value label children h
        cases h
    rw [hroot, evaluate.eq_2 _ _ _ _ _ hmalformed]
    exact ⟨rfl, rfl⟩
  | case3 value label children =>
    obtain ⟨ha, hs⟩ := evaluateCommand_quiet c hl hr engine value label children
    obtain ⟨ha', -⟩ := evaluateCommand_quiet c hl hr engine value none children
    rw [Expr.root, evaluate.eq_3, evaluate.eq_3]
    exact ⟨hs, ha.trans ha'.symm⟩
  | case4 e h1 h2 h3 =>
    rw [Expr.root, evaluate.eq_4 _ _ _ h1 h2 h3]
    · exact ⟨rfl, rfl⟩
    · exact h1
    · exact h3

theorem answer_evaluate_congr (hl : options.labels = false) (hr : options.redefinition = true)
    (engine : Engine) (e : Expr) (d : Construction) :
    (evaluate engine options e c).answer = (evaluate engine options e d).answer := by
  induction e using evaluate.induct with
  | case1 rhs l children ih =>
    have hc := (evaluate_quiet c hl hr engine rhs).1
    have hd := (evaluate_quiet d hl hr engine rhs).1
    simp only [evaluate, Action.answer_bind, checkRedefinition_free _ hr, Except.bind, hc, hd, ih,
      record_labelless _ hl]
    rfl
  | case2 value label children hmalformed =>
    rw [evaluate.eq_2 _ _ _ _ _ hmalformed]
    rfl
  | case3 value label children =>
    rw [evaluate.eq_3]
    exact (evaluateCommand_quiet c hl hr engine value label children).1.trans
      (evaluateCommand_quiet d hl hr engine value label children).1.symm
  | case4 e h1 h2 h3 =>
    rw [evaluate.eq_4 _ _ _ h1 h2 h3]
    rfl

/-- **The answer of an expression whose root is a call is that of the engine.** -/
theorem answer_evaluate_call (hl : options.labels = false) (hr : options.redefinition = true)
    (engine : Engine) {e : Expr} {name : String} (h : e.root.commandName? = some name) :
    (evaluate engine options e c).answer =
      (engine.call name e.root.arguments options).answer := by
  rw [(evaluate_quiet c hl hr engine e).2]
  generalize e.root = root at h ⊢
  obtain ⟨kind, value, label, children⟩ := root
  obtain ⟨rfl, -⟩ : kind = .command ∧ _ := Expr.commandName?_eq_some_iff.mp h
  have hname : Expr.commandName? { kind := .command, value, label := none, children } = some name :=
    h
  obtain ⟨ha, -⟩ := evaluateCommand_quiet c hl hr engine value label children
  rw [hname] at ha
  rw [evaluate.eq_3]
  exact ha

theorem answer_evaluate_leaf (hl : options.labels = false) (hr : options.redefinition = true)
    (engine : Engine) {e : Expr} (h : e.root.kind ≠ .command) {options' : Options}
    (hl' : options'.labels = false) (hr' : options'.redefinition = true) (engine' : Engine) :
    (evaluate engine options e c).answer = (evaluate engine' options' e c).answer := by
  induction e using evaluate.induct with
  | case1 rhs l children ih =>
    rw [Expr.root] at h
    have hquiet := evaluate_quiet c hl hr engine rhs
    have hquiet' := evaluate_quiet c hl' hr' engine' rhs
    simp only [evaluate, Action.answer_bind, checkRedefinition_free c hr,
      checkRedefinition_free c hr', Except.bind, hquiet.1, hquiet'.1, ih h, record_labelless c hl,
      record_labelless c hl']
  | case2 value label children hmalformed =>
    rw [evaluate.eq_2 _ _ _ _ _ hmalformed, evaluate.eq_2 _ _ _ _ _ hmalformed]
  | case3 value label children => exact absurd rfl h
  | case4 e h1 h2 h3 => rw [evaluate.eq_4 _ _ _ h1 h2 h3, evaluate.eq_4 _ _ _ h1 h2 h3]

end Quiet

end GeoScript
