import GeoScript.Proofs.Labels.Deferred
import GeoScript.Proofs.Reading.Accepted

/-! # Nodes that no rule fits

A tree that was put together by hand may have nodes that cannot be evaluated: a command without a
name, an assignment without a label or without a right side, a leaf that does not hold what its kind
calls for. An evaluation ends by a fault where it comes to such a *stray* node. It never does in a
tree that was read: whatever were to happen at stray nodes instead, the evaluation is the same.

* `evaluateOr`: evaluation, with anything at all in the place of these faults.
* `evaluateOr_strayFault`: with the faults, it is evaluation.
* `evaluateOr_eq_evaluate`: the trees that are read have no stray nodes where it matters.
* `call_of_evaluate_malformed`: where its faults may still come from.
* `Expr.read_has_shape`: the main statement, on the shape of what is read and its evaluation. -/

namespace GeoScript

/-! ### Evaluation with another answer to stray nodes -/

/-- The figure of a node that is neither a command nor an assignment, if a rule fits it. -/
def simpleFigure? (e : Expr) : Option (Except Fault Figure) :=
  match e.kind, e.value with
  | .number, some (.number n) => some (.ok (.number n))
  | .point, some (.point p) => some (.ok (.ofCoordinates p))
  | .list, some (.list items) => some (.ok (.list items))
  | .variable, some v => some (Figure.ofValue v)
  | .point, some (.text s) => some (.error (.invalidInput (.invalidPoint s)))
  | .identifier, some (.text s) => some (.error (.invalidInput (.unboundIdentifier s)))
  | _, _ => none

/-- The result of an expression, bound to its labels, where `stray` is done at stray nodes. -/
def evaluateOr (stray : Expr → Action Construction (List Figure)) (engine : Engine)
    (options : Options) : Expr → Action Construction (List Figure)
  | { kind := .assignment, value := some (.expr rhs), label := some l, children := _ } => do
    checkRedefinition l options
    let figures ← evaluateOr stray engine options rhs
    record l figures options
    return figures
  | { kind := .assignment, value, label, children } =>
    stray { kind := .assignment, value, label, children }
  | { kind := .command, value, label, children } =>
    let e : Expr := { kind := .command, value, label, children }
    if e.commandName?.isSome then evaluateCommand engine e options else stray e
  | e =>
    match simpleFigure? e with
    | some answer => .ofExcept (answer.map fun f => [f])
    | none => stray e

/-- The fault of a stray node. -/
def strayFault (e : Expr) : Fault :=
  match e.kind with
  | .command => .invalidInput .namelessCommand
  | .assignment => .invalidInput .malformedAssignment
  | kind => .invalidInput (.unsupported kind)

theorem simpleFigure_eq {e : Expr} (hc : e.kind ≠ .command) (ha : e.kind ≠ .assignment) :
    simpleFigure e = (simpleFigure? e).getD (.error (strayFault e)) := by
  obtain ⟨kind, value, label, children⟩ := e
  unfold simpleFigure simpleFigure? strayFault
  cases kind with
  | command => exact absurd rfl hc
  | assignment => exact absurd rfl ha
  | _ =>
    cases value with
    | none => rfl
    | some v => cases v <;> rfl

theorem evaluateOr_strayFault (engine : Engine) (options : Options) (e : Expr) :
    evaluateOr (fun e => .fail (strayFault e)) engine options e = evaluate engine options e := by
  induction e using evaluate.induct with
  | case1 rhs l children ih =>
    rw [evaluateOr, evaluate, ih]
  | case2 value label children hmalformed =>
    rw [evaluateOr.eq_2 _ _ _ _ _ _ hmalformed, evaluate.eq_2 _ _ _ _ _ hmalformed]
    rfl
  | case3 value label children =>
    rw [evaluateOr.eq_3, evaluate.eq_3, evaluateCommand]
    cases ({ kind := .command, value, label, children } : Expr).commandName? <;> rfl
  | case4 e hassignment hmalformed hcommand =>
    have hc : e.kind ≠ .command := by
      obtain ⟨kind, value, label, children⟩ := e
      rintro rfl
      exact hcommand value label children rfl
    have ha : e.kind ≠ .assignment := by
      obtain ⟨kind, value, label, children⟩ := e
      rintro rfl
      exact hmalformed value label children rfl
    rw [evaluateOr.eq_4 _ _ _ _ hassignment hmalformed hcommand,
      evaluate.eq_4 _ _ _ hassignment hmalformed hcommand, simpleFigure_eq hc ha]
    cases simpleFigure? e <;> rfl

/-! ### Trees that were read -/

/-- **A tree that was read is evaluated without coming to a stray node,** by induction on its
shape. -/
theorem evaluateOr_eq_evaluate {vars : Syntax.Variables} {cs : List Char} {e : Expr}
    (h : Syntax.Accepted vars cs e) (stray : Expr → Action Construction (List Figure))
    (engine : Engine) (options : Options) :
    evaluateOr stray engine options e = evaluate engine options e := by
  induction h with
  | assignment hsplit hlabel h hne ih =>
    simp only [Expr.assignment, evaluateOr, evaluate, ih]
  | _ => rfl

theorem simpleFigure_ne {e : Expr} {fault : Fault}
    (hfault : fault = .invalidInput .namelessCommand ∨ fault = .invalidInput .malformedAssignment) :
    simpleFigure e ≠ .error fault := by
  intro h
  unfold simpleFigure at h
  split at h
  case h_4 v _ _ => cases v <;> rcases hfault with rfl | rfl <;> cases h
  all_goals rcases hfault with rfl | rfl <;> cases h

theorem evaluate_leaf {engine : Engine} {options : Options} {kind : ExprKind} (v : Value)
    (hc : kind ≠ .command) (ha : kind ≠ .assignment) :
    evaluate engine options (.leaf kind v) =
      .ofExcept ((simpleFigure (.leaf kind v)).map fun f => [f]) := by
  cases kind with
  | command => exact absurd rfl hc
  | assignment => exact absurd rfl ha
  | _ => rfl

/-- **The faults of nameless commands and of malformed assignments,** where a tree that was read
ends by one of them, are those of a call. -/
theorem call_of_evaluate_malformed {engine : Engine} {options : Options} {e : Expr}
    (he : Syntax.Shaped e) {fault : Fault}
    (hfault : fault = .invalidInput .namelessCommand ∨ fault = .invalidInput .malformedAssignment)
    {c : Construction} (h : (evaluate engine options e c).answer = .error fault) :
    ∃ name arguments, (engine.call name arguments options).answer = .error fault := by
  induction he generalizing c with
  | unlabelled hu =>
    cases hu with
    | call name arguments =>
      rw [evaluate_call] at h
      exact ⟨name, arguments, h⟩
    | leaf v hc ha =>
      rw [evaluate_leaf v hc ha] at h
      exact absurd (error_of_map h) (simpleFigure_ne hfault)
  | @labelled l e hl he ih =>
    rw [evaluate_label l he, Action.answer_bind] at h
    rcases error_of_bind h with hcheck | ⟨-, -, h⟩
    · have hused : fault = .nameUsed l := by
        unfold checkRedefinition at hcheck
        split at hcheck <;> cases hcheck
        rfl
      rcases hfault with rfl | rfl <;> cases hused
    · rw [Action.answer_bind] at h
      rcases error_of_bind h with hinner | ⟨figures, -, h⟩
      · exact ih hinner
      · rw [Action.answer_bind] at h
        rcases error_of_bind h with hrecord | ⟨-, -, hnone⟩
        · rcases record_refused hrecord with rfl | rfl <;> rcases hfault with h | h <;> cases h
        · cases hnone

/-- **The shape of what is read, and its evaluation.** An expression that is read has one of the
shapes of `Accepted`, from its trimmed text, and is not an argument. For every engine, its
evaluation comes to no node that no rule fits. -/
theorem Expr.read_has_shape {vars : Syntax.Variables} {text : String} {e : Expr}
    (h : Expr.read vars text = .ok e) :
    Syntax.Accepted vars (Text.trim text.toList) e ∧ e.kind ≠ .argument ∧
      (∀ stray engine options, evaluateOr stray engine options e = evaluate engine options e) ∧
      ∀ (engine : Engine) (options : Options) (c : Construction) (fault : Fault),
        (fault = .invalidInput .namelessCommand ∨ fault = .invalidInput .malformedAssignment) →
        (GeoScript.evaluate engine options e c).answer = .error fault →
        ∃ name arguments, (engine.call name arguments options).answer = .error fault := by
  have hshape := Expr.accepted_of_read h
  exact ⟨hshape, hshape.kind_ne_argument, evaluateOr_eq_evaluate hshape,
    fun engine options c fault hfault =>
      call_of_evaluate_malformed (Expr.shaped_of_read h) hfault⟩

/-- The variable `v` holds a command without a name. By itself it is stray, but among arguments and
as what is assigned it is a value like others. -/
theorem Expr.read_has_shape_nameless :
    let nameless : Expr := { kind := .command, value := none, label := none, children := [] }
    let vars : Syntax.Variables := ⟨[("v", .expr nameless)]⟩
    let mean := Expr.command "Mean" [.number (.int 1), .expr nameless]
    let call := (Expr.command "Line" [.expr nameless, .list [.expr mean, .text "(1, x)"]]).withLabel
      "B"
    let text := "A = B = Line (v, [Mean(1, v), (1, x)])"
    Expr.read vars text = .ok (.assignment "A" call) ∧
      Syntax.Accepted vars text.toList (.assignment "A" call) ∧
      (∀ stray, evaluateOr stray .initial .standard (.assignment "A" call) =
        GeoScript.evaluate .initial .standard (.assignment "A" call)) ∧
      (GeoScript.evaluate .initial .standard nameless .empty).answer =
        .error (.invalidInput .namelessCommand) := by
  intro nameless vars mean call text
  have hread : Expr.read vars text = .ok (.assignment "A" call) := by cbv
  have htrim : Text.trim text.toList = text.toList := by decide
  obtain ⟨haccepted, -, hstray, -⟩ := Expr.read_has_shape hread
  rw [htrim] at haccepted
  exact ⟨hread, haccepted, fun stray => hstray stray .initial .standard, rfl⟩

end GeoScript
