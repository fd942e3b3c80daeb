import GeoScript.Proofs.Labels.Deferred

/-! # Labels that may not be bound again

Without permission to bind labels again, an evaluation leaves everything alone that was bound before
it. A label is checked on the way down to the root and bound on the way up, and what is bound in
between are the labels under it. So every label that gets bound at all was free to start with, for
any tree and any number of repetitions in it. Of an expression that was read all labels are checked,
the outermost first, before anything is asked of the engine.

* `Construction.Extends`: one construction goes on where another ends.
* `evaluate_extends`: what an evaluation leaves, by induction on the expression.
* `Expr.usedLabel?`, `evaluate_used`: the label that stops the evaluation of what was read.
* `Workspace.bindings_are_kept`: the main statement. -/

namespace GeoScript

/-! ### Constructions that go on -/

/-- Everything that is bound in `c` stands for the same figures in `d`, and `d` lists the labels of
`c` first, in the same order. -/
structure Construction.Extends (c d : Construction) : Prop where
  get?_eq : ∀ l, c.isFree l = false → d.get? l = c.get? l
  labels_prefix : c.labels <+: d.labels

theorem Construction.Extends.refl (c : Construction) : c.Extends c :=
  ⟨fun _ _ => rfl, List.prefix_rfl⟩

theorem Construction.Extends.bind {c d : Construction} (h : c.Extends d) {label : String}
    (hfree : c.isFree label = true) (figures : List Figure) : c.Extends (d.bind label figures) := by
  refine ⟨fun l hl => ?_, ?_⟩
  · have hne : l ≠ label := by
      rintro rfl
      cases hl.symm.trans hfree
    rw [get?_bind, if_neg hne]
    exact h.get?_eq l hl
  · refine h.labels_prefix.trans ?_
    unfold Construction.bind
    dsimp only
    split
    · exact List.prefix_append _ _
    · exact List.prefix_rfl

/-! ### Every expression -/

section Extends

variable {options : Options} {c : Construction}

theorem extends_record {d : Construction} (h : c.Extends d) {label : String}
    (hfree : c.isFree label = true) (figures : List Figure) (options : Options) :
    c.Extends (record label figures options d).state := by
  cases hrecord : (record label figures options d).answer with
  | error fault =>
    rw [state_record_of_error hrecord]
    exact h
  | ok u =>
    rw [state_record_of_ok hrecord]
    split
    · exact h.bind hfree figures
    · exact h

theorem checkRedefinition_used (hr : options.redefinition = false) {label : String}
    (hused : c.isFree label = false) :
    checkRedefinition label options c = ⟨.error (.nameUsed label), c, []⟩ := by
  simp [checkRedefinition, hr, hused]

theorem checkRedefinition_of_isFree {label : String} (hfree : c.isFree label = true) :
    checkRedefinition label options c = ⟨.ok (), c, []⟩ := by
  simp [checkRedefinition, hfree]

/-- A label is checked first, and whatever comes under it, it is bound only if it was free. -/
theorem extends_label (hr : options.redefinition = false) (label : String)
    {x : Action Construction (List Figure)} (hx : c.Extends (x c).state) :
    c.Extends ((do
      checkRedefinition label options
      let figures ← x
      record label figures options
      return figures : Action Construction (List Figure)) c).state := by
  cases hfree : c.isFree label with
  | false =>
    rw [Action.state_bind, checkRedefinition_used hr hfree]
    exact .refl c
  | true =>
    simp only [Action.state_bind, checkRedefinition_of_isFree hfree]
    cases (x c).answer with
    | error fault => exact hx
    | ok figures =>
      have hrecord := extends_record hx hfree figures options
      dsimp only
      cases (record label figures options (x c).state).answer <;> exact hrecord

/-- **What was bound stays as it was,** whatever tree is evaluated. -/
theorem evaluate_extends (hr : options.redefinition = false) (engine : Engine) (e : Expr)
    (c : Construction) : c.Extends (evaluate engine options e c).state := by
  induction e using evaluate.induct with
  | case1 rhs l children ih => exact extends_label hr l ih
  | case2 value label children hmalformed =>
    rw [evaluate.eq_2 _ _ _ _ _ hmalformed]
    exact .refl c
  | case3 value label children =>
    rw [evaluate.eq_3]
    unfold evaluateCommand
    cases Expr.commandName? { kind := .command, value, label, children } with
    | none => exact .refl c
    | some name =>
      cases label with
      | none =>
        -- Without a label only the call is left, which does not see the construction.
        simp only [Option.forM, pure_bind, bind_pure]
        exact .refl c
      | some l => exact extends_label hr l (.refl c)
  | case4 e h1 h2 h3 =>
    rw [evaluate.eq_4 _ _ _ h1 h2 h3]
    exact .refl c

end Extends

/-! ### Expressions that were read -/

/-- The outermost label of an expression that is bound. -/
def Expr.usedLabel? (e : Expr) (c : Construction) : Option String :=
  e.labelChain.reverse.find? fun l => !c.isFree l

theorem Syntax.usedLabel?_label (name : String) (e : Expr) (c : Construction) :
    (label name e).usedLabel? c = if c.isFree name then e.usedLabel? c else some name := by
  rw [Expr.usedLabel?, labelChain_label, List.reverse_append, List.reverse_singleton,
    List.singleton_append, List.find?_cons]
  cases c.isFree name <;> rfl

/-- **A label that is bound stops the evaluation** before the engine is asked for anything. -/
theorem evaluate_used {options : Options} (hr : options.redefinition = false) (engine : Engine)
    {e : Expr} (he : Syntax.Shaped e) {c : Construction} {l : String}
    (hused : e.usedLabel? c = some l) :
    evaluate engine options e c = ⟨.error (.nameUsed l), c, []⟩ := by
  induction he with
  | unlabelled hu =>
    rw [Expr.usedLabel?, hu.labelChain_eq] at hused
    cases hused
  | @labelled name e hn he ih =>
    rw [Syntax.usedLabel?_label] at hused
    rw [evaluate_label name he]
    cases hfree : c.isFree name with
    | false =>
      rw [hfree] at hused
      cases hused
      have hcheck := checkRedefinition_used hr hfree
      rw [Action.bind_of_error _ (congrArg Outcome.answer hcheck), hcheck]
    | true =>
      rw [hfree] at hused
      have hcheck : checkRedefinition name options c = ⟨.ok (), c, []⟩ :=
        checkRedefinition_of_isFree hfree
      have hinner := ih hused
      rw [Action.bind_of_ok _ (congrArg Outcome.answer hcheck), hcheck]
      dsimp only
      rw [Action.bind_of_error _ (congrArg Outcome.answer hinner), hinner]
      rfl

/-! ### The main statement -/

/-- **Nothing is bound again without permission.** Where no label may be bound again, the evaluation
of any tree leaves all that was bound as it was, each label with its figures and in its place. And
an expression that was read, one of whose labels is bound, is not evaluated at all: the outermost
such label is in use, whatever the engine would have answered, and nothing is bound. -/
theorem Workspace.bindings_are_kept {options : Options} (hr : options.redefinition = false)
    (w : Workspace) :
    (∀ e, w.construction.Extends (Workspace.evaluate e options w).state.construction) ∧
    ∀ vars text e, Expr.read vars text = .ok e →
      (∃ l ∈ e.labelChain, w.construction.isFree l = false) →
        ∃ l, e.usedLabel? w.construction = some l ∧
          Workspace.evaluate e options w = ⟨.error (.nameUsed l), w, []⟩ := by
  refine ⟨fun e => evaluate_extends hr w.engine e w.construction,
    fun vars text e hread ⟨l, hmem, hbound⟩ => ?_⟩
  have hsome : (e.usedLabel? w.construction).isSome = true := by
    rw [Expr.usedLabel?, List.find?_isSome]
    exact ⟨l, List.mem_reverse.mpr hmem, by rw [hbound]; rfl⟩
  obtain ⟨used, hused⟩ := Option.isSome_iff_exists.mp hsome
  refine ⟨used, hused, ?_⟩
  have hevaluate := evaluate_used hr w.engine (Expr.shaped_of_read hread) hused
  simp only [Workspace.evaluate, onConstruction, Action.onPart, hevaluate]

/-- Two labels of four are bound. The tree put together by hand binds a label and is then refused,
as its outer label is blank. -/
theorem Workspace.bindings_are_kept_chain :
    let bound := (Construction.empty.bind "B" [.text "b"]).bind "A" [.text "a"]
    let w : Workspace := { initial with construction := bound }
    let e := Expr.assignment "C" (.assignment "A" (.assignment "D" ((Expr.command "Sum"
      [.number (.int 1)]).withLabel "B")))
    let byHand := Expr.assignment " " (.assignment "D" (.leaf .number (.number (.int 1))))
    Options.standard.redefinition = false ∧ Expr.read .empty "C = A = D = B = Sum(1)" = .ok e ∧
      Workspace.evaluate e .standard w = ⟨.error (.nameUsed "A"), w, []⟩ ∧
      (Workspace.evaluate byHand .standard w).answer = .error (.invalidInput .emptyLabel) ∧
      bound.Extends (Workspace.evaluate byHand .standard w).state.construction := by
  intro bound w e byHand
  have hread : Expr.read .empty "C = A = D = B = Sum(1)" = .ok e := by cbv
  have hr : Options.standard.redefinition = false := rfl
  obtain ⟨hkept, hused⟩ := bindings_are_kept hr w
  obtain ⟨l, hl, hevaluate⟩ := hused .empty _ e hread ⟨"A", by decide, by decide⟩
  obtain rfl : l = "A" := Option.some.inj (hl.symm.trans (by decide))
  exact ⟨hr, hread, hevaluate, by cbv, hkept byHand⟩

end GeoScript
