import GeoScript.Proofs.Evaluation.Call
import GeoScript.Proofs.Labels.Binding
import GeoScript.Proofs.Reading.Labelled

/-! # Labels bound afterwards

An expression can be evaluated in one go: each label is checked on the way down to the root, and
bound on the way up. Or it is evaluated in two stages: first without binding any label, and then its
labels are bound to the result. For an expression that was read the two ways agree. On either way
every label is checked before the first of them is bound, so a label that stands there twice is no
obstacle to itself, and a result that cannot be bound is refused by the innermost label.

* `Action.Agrees`: the same answer and the same state, whatever is reported.
* `Engine.IgnoresLabels`: results that do not depend on whether labels are bound.
* `evaluate_label`: what one label more does in an evaluation, wherever it stands.
* `Workspace.evaluate_agrees`: the main statement. -/

namespace GeoScript

/-! ### Actions up to what they report -/

namespace Action

variable {σ α β : Type}

instance : LawfulMonad (Action σ) := .mk' _
  (by
    intro α x
    funext s
    change Action.bind x Action.pure s = x s
    unfold Action.bind
    rcases x s with ⟨_ | a, t, log⟩
    · rfl
    · simp [Action.pure])
  (fun a f => rfl)
  (by
    intro α β γ x f g
    funext s
    change Action.bind (Action.bind x f) g s = Action.bind x (fun a => Action.bind (f a) g) s
    unfold Action.bind
    rcases x s with ⟨_ | a, t, log⟩
    · rfl
    · dsimp only
      rcases f a t with ⟨_ | b, t', log'⟩
      · rfl
      · simp)

/-- Two actions that have the same answer and leave the same state, whatever they report. -/
def Agrees (x y : Action σ α) : Prop :=
  ∀ s, (x s).answer = (y s).answer ∧ (x s).state = (y s).state

theorem Agrees.refl (x : Action σ α) : x.Agrees x := fun _ => ⟨rfl, rfl⟩

theorem Agrees.symm {x y : Action σ α} (h : x.Agrees y) : y.Agrees x :=
  fun s => ⟨(h s).1.symm, (h s).2.symm⟩

theorem Agrees.trans {x y z : Action σ α} (h : x.Agrees y) (h' : y.Agrees z) : x.Agrees z :=
  fun s => ⟨(h s).1.trans (h' s).1, (h s).2.trans (h' s).2⟩

instance : Trans (@Agrees σ α) (@Agrees σ α) (@Agrees σ α) := ⟨Agrees.trans⟩

theorem Agrees.bind {x y : Action σ α} {f g : α → Action σ β} (h : x.Agrees y)
    (h' : ∀ a, (f a).Agrees (g a)) : (x >>= f).Agrees (y >>= g) := by
  intro s
  rw [answer_bind, answer_bind, state_bind, state_bind, (h s).1, (h s).2]
  cases (y s).answer with
  | error fault => exact ⟨rfl, rfl⟩
  | ok a => exact h' a _

end Action

/-! ### Processors that do not look at the labels -/

/-- A processor whose results do not depend on whether labels are bound. -/
def Processor.IgnoresLabels (p : Processor) : Prop :=
  ∀ c arguments options labels,
    (p c arguments (options.withLabels labels)).answer = (p c arguments options).answer

/-- An engine whose processors are all of this kind. -/
def Engine.IgnoresLabels (e : Engine) : Prop :=
  ∀ name p, e.processors.get? name = some p → p.IgnoresLabels

theorem Engine.ignoresLabels_initial : Engine.initial.IgnoresLabels := by
  intro name p h
  rw [eq_basicProcessor_of_initial h]
  exact fun _ _ _ _ => rfl

theorem Engine.IgnoresLabels.answer_call {e : Engine} (h : e.IgnoresLabels) (name : String)
    (arguments : List Value) (options : Options) (labels : Bool) :
    (e.call name arguments (options.withLabels labels)).answer =
      (e.call name arguments options).answer :=
  Engine.answer_call_congr fun p hp c => h name p hp c arguments options labels

/-! ### One label more -/

section Evaluate

variable {engine : Engine} {options : Options}

theorem evaluateCommand_call (name : String) (arguments : List Value) (label : Option String) :
    evaluateCommand engine { Expr.command name arguments with label } options = (do
      label.forM fun l => checkRedefinition l options
      let figures ← .ofTraced (engine.call name arguments options)
      label.forM fun l => record l figures options
      return figures) := by
  have hname : Expr.commandName? { Expr.command name arguments with label } = some name := rfl
  have harguments : Expr.arguments { Expr.command name arguments with label } = arguments :=
    Expr.arguments_command name arguments
  unfold evaluateCommand
  rw [hname]
  simp only [harguments]

theorem evaluate_call (name : String) (arguments : List Value) :
    evaluate engine options (.command name arguments) =
      .ofTraced (engine.call name arguments options) := by
  calc evaluate engine options (.command name arguments)
    _ = evaluateCommand engine { Expr.command name arguments with label := none } options :=
      evaluate.eq_3 ..
    _ = .ofTraced (engine.call name arguments options) := by
      rw [evaluateCommand_call]
      simp [Option.forM]

/-- **A label is checked before the expression under it is evaluated, and bound afterwards,** be it
the label of a call or that of an assignment. -/
theorem evaluate_label (name : String) {e : Expr} (he : Syntax.Shaped e) :
    evaluate engine options (Syntax.label name e) = (do
      checkRedefinition name options
      let figures ← evaluate engine options e
      record name figures options
      return figures) := by
  unfold Syntax.label
  split
  · next hcommand =>
    cases he with
    | labelled _ h => exact absurd hcommand (Syntax.not_unlabelled_label _ _)
    | unlabelled hu =>
      cases hu with
      | leaf v hc ha => exact absurd hcommand.1 hc
      | call command arguments =>
        calc evaluate engine options ((Expr.command command arguments).withLabel name)
          _ = evaluateCommand engine { Expr.command command arguments with label := some name }
              options := evaluate.eq_3 ..
          _ = _ := by
            rw [evaluateCommand_call, evaluate_call]
            rfl
  · rfl

/-! ### Both ways to evaluate an expression -/

/-- An expression is evaluated without binding labels, and then its labels are bound to the
result. -/
def evaluateThenBind (engine : Engine) (options : Options) (e : Expr) :
    Action Construction (List Figure) := do
  let figures ← evaluate engine (options.withLabels false) e
  bindLabels e figures options
  return figures

theorem agrees_record_labelless (label : String) (figures : List Figure) :
    (record label figures (options.withLabels false)).Agrees (pure ()) := fun c =>
  record_quiet (c := c) rfl

theorem evaluate_agrees_of_shaped (h : engine.IgnoresLabels) {e : Expr} (he : Syntax.Shaped e) :
    (evaluate engine options e).Agrees (evaluateThenBind engine options e) := by
  induction he with
  | unlabelled hu =>
    unfold evaluateThenBind
    simp only [bindLabels_unlabelled hu, pure_bind, bind_pure]
    cases hu with
    | call name arguments =>
      rw [evaluate_call, evaluate_call]
      exact fun c => ⟨(h.answer_call name arguments options false).symm, rfl⟩
    | @leaf kind v hc ha =>
      cases kind with
      | command => exact absurd rfl hc
      | assignment => exact absurd rfl ha
      | _ => exact .refl _
  | @labelled name e hn he ih =>
    calc
      Action.Agrees (evaluate engine options (Syntax.label name e)) (do
          checkRedefinition name options
          let figures ← evaluateThenBind engine options e
          record name figures options
          return figures) := by
        rw [evaluate_label name he]
        exact (Action.Agrees.refl _).bind fun _ => ih.bind fun _ => .refl _
      _ = (do
          checkRedefinition name options
          let figures ← evaluate engine (options.withLabels false) e
          bindLabels (Syntax.label name e) figures options
          return figures) := by
        simp only [evaluateThenBind, bindLabels_label, bind_assoc, pure_bind]
      -- The first stage passes the label without binding it.
      Action.Agrees _ (do
          checkRedefinition name options
          let figures ← evaluate engine (options.withLabels false) e
          record name figures (options.withLabels false)
          bindLabels (Syntax.label name e) figures options
          return figures) := by
        refine (Action.Agrees.refl _).bind fun _ => (Action.Agrees.refl _).bind fun figures => ?_
        exact Action.Agrees.symm ((agrees_record_labelless name figures).bind fun _ => .refl _)
      _ = evaluateThenBind engine options (Syntax.label name e) := by
        rw [evaluateThenBind, evaluate_label name he]
        simp only [bind_assoc, pure_bind]
        rfl

end Evaluate

/-! ### The main statement -/

namespace Workspace

/-- An expression is evaluated in a workspace without binding labels, and then its labels are bound
to the result. -/
def evaluateThenBind (e : Expr) (options : Options) : Action Workspace (List Figure) := do
  let figures ← Workspace.evaluate e (options.withLabels false)
  onConstruction (bindLabels e figures options)
  return figures

/-- Work on the construction may be done in one piece or in two. -/
theorem onConstruction_bind {α β : Type} (x : Action Construction α)
    (f : α → Action Construction β) :
    onConstruction (x >>= f) = onConstruction x >>= fun a => onConstruction (f a) := by
  funext w
  cases h : (x w.construction).answer with
  | error fault =>
    have hpart : (onConstruction x w).answer = .error fault := h
    rw [Action.bind_of_error _ hpart]
    simp only [onConstruction, Action.onPart, Action.bind_of_error f h]
  | ok a =>
    have hpart : (onConstruction x w).answer = .ok a := h
    rw [Action.bind_of_ok _ hpart]
    simp only [onConstruction, Action.onPart, Action.bind_of_ok f h]

theorem evaluateThenBind_apply (e : Expr) (options : Options) (w : Workspace) :
    evaluateThenBind e options w =
      onConstruction (GeoScript.evaluateThenBind w.engine options e) w := by
  unfold evaluateThenBind GeoScript.evaluateThenBind
  simp only [onConstruction_bind]
  rfl

/-- **To evaluate an expression and bind its labels on the way is to evaluate it without and to bind
them afterwards.** The expression was read in the workspace, and no processor of the engine looks at
whether labels are bound. Then both ways have the same answer, a result or a fault, and leave the
same workspace, with the labels in the same order. -/
theorem evaluate_agrees {w : Workspace} (h : w.engine.IgnoresLabels) {text : String} {e : Expr}
    (hread : w.read text = .ok e) (options : Options) :
    (Workspace.evaluate e options w).answer = (evaluateThenBind e options w).answer ∧
      (Workspace.evaluate e options w).state = (evaluateThenBind e options w).state := by
  have hagrees : (GeoScript.evaluate w.engine options e).Agrees
      (GeoScript.evaluateThenBind w.engine options e) :=
    evaluate_agrees_of_shaped h (Expr.shaped_of_read hread)
  obtain ⟨hanswer, hstate⟩ := hagrees w.construction
  rw [evaluateThenBind_apply]
  exact ⟨hanswer, congrArg (fun c => { w with construction := c }) hstate⟩

/-- A label that stands twice in a chain, while no label may be bound again. -/
theorem evaluate_agrees_repeated :
    let e := Expr.assignment "A" (.assignment "B" ((Expr.command "Sum"
      [.number (.int 1), .number (.int 2)]).withLabel "A"))
    let done := Workspace.evaluate e .standard initial
    initial.engine.IgnoresLabels ∧ initial.read "A = B = A = Sum(1, 2)" = .ok e ∧
      done.answer = .ok [.number (.int 3)] ∧ done.state.construction.labels = ["A", "B"] := by
  intro e done
  have hread : initial.read "A = B = A = Sum(1, 2)" = .ok e := by cbv
  obtain ⟨hanswer, hstate⟩ := evaluate_agrees Engine.ignoresLabels_initial hread .standard
  refine ⟨Engine.ignoresLabels_initial, hread, hanswer.trans ?_, ?_⟩
  · cbv
  · rw [show done.state = _ from hstate]
    cbv

end Workspace

end GeoScript
