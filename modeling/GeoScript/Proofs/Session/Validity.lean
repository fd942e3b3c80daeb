import GeoScript.Proofs.Evaluation.Stray
import GeoScript.Proofs.Expr.Problems
import GeoScript.Proofs.Session.Stages

/-! # Texts without problems

A text is validated without evaluating it. What is found is the fault of reading it, or what is
wrong with each faulty node of its tree. If nothing is found, an evaluation of the text may still
end by a fault, but then something else stood in its way: a filter, a processor, a tuple that is no
point, a variable that holds an expression, or labels for no figures.

* `Syntax.Bare`: what stands under the labels of an expression that was read.
* `Session.Hinders`: what may stand in the way of an evaluation.
* `hinders_of_evaluateText`: nothing else does, if the command under the labels is in the catalogue
  and no identifier stands there.
* `validation_agrees_with_evaluation`: the main statement. -/

namespace GeoScript

/-! ### Under the labels -/

namespace Syntax

variable {vars : Variables}

/-- What stands under the labels of an expression that was read: a call, or a leaf that holds what
its kind calls for. A word is an identifier only if no variable has its name. -/
inductive Bare (vars : Variables) : Expr → Prop
  | call (name : String) (arguments : List Value) : Bare vars (.command name arguments)
  | number (n : Number) : Bare vars (.leaf .number (.number n))
  | point (p : Coordinates) : Bare vars (.leaf .point (.point p))
  | tuple (text : String) : Bare vars (.leaf .point (.text text))
  | list (items : List Value) : Bare vars (.leaf .list (.list items))
  | variable {name : String} {v : Value} (h : vars.get? name = some v) :
      Bare vars (.leaf .variable v)
  | identifier {name : String} (h : vars.get? name = none) :
      Bare vars (.leaf .identifier (.text name))

theorem bare_of_readUnlabelled {cs : List Char} {e : Expr} (h : readUnlabelled vars cs = .ok e) :
    Bare vars e.root := by
  cases readAs_of_readUnlabelled h with
  | number hf => exact .number _
  | tuple hf =>
    unfold tupleValue
    split
    · exact .point _
    · exact .tuple _
  | list hf hvs => exact .list _
  | call hf hvs => exact .call _ _
  | bound hf hget => exact .variable hget
  | unbound hf hget => exact .identifier hget

theorem bare_of_read {text : String} {e : Expr} (h : Expr.read vars text = .ok e) :
    Bare vars e.root := by
  have hread := Expr.readTrimmed_of_read h
  refine readTrimmed_induction (motive := fun _ e => Bare vars e.root) ?_ ?_ hread
  · intro cs e _ hu
    exact bare_of_readUnlabelled hu
  · intro cs before after e _ _ _ ih
    rw [Expr.root_label]
    exact ih

end Syntax

theorem Expr.exists_node_root (e : Expr) :
    ∃ path x, e.node? path = some x ∧ x.kind = e.root.kind ∧ x.value = e.root.value := by
  induction e using Expr.root.induct with
  | case1 rhs label children ih =>
    obtain ⟨path, x, hnode, hkind, hvalue⟩ := ih
    refine ⟨0 :: path, x, hnode, ?_, ?_⟩
    · rw [Expr.root]
      exact hkind
    · rw [Expr.root]
      exact hvalue
  | case2 value label children => exact ⟨[], _, rfl, rfl, rfl⟩
  | case3 e h1 h2 =>
    have hroot : e.root = e := Expr.root.eq_3 e h1 h2
    rw [hroot]
    exact ⟨[], e, rfl, rfl, rfl⟩

theorem Expr.root_of_problems_eq_nil {vars : Syntax.Variables} {text : String} {e : Expr}
    (hread : Expr.read vars text = .ok e) (hnone : e.problems vars = []) :
    (∀ name, e.root.commandName? = some name → ∃ c, Command.find? name = some c) ∧
      e.root.kind ≠ .identifier := by
  obtain ⟨path, x, hnode, hkind, hvalue⟩ := e.exists_node_root
  have hsound : ∀ problem, ¬ x.Faulty vars problem := fun _ =>
    not_faulty_of_problems_eq_nil hnone hnode
  constructor
  · intro name hname
    obtain ⟨hroot, htext⟩ := commandName?_eq_some_iff.mp hname
    have hname' := commandName?_eq_some_iff.mpr ⟨hkind.trans hroot, hvalue.trans htext⟩
    rcases hfind : Command.find? name with _ | c
    · exact absurd (.unknownCommand hname' (Command.find?_eq_none_iff.mp hfind)) (hsound _)
    · exact ⟨c, rfl⟩
  · intro hidentifier
    have hbare := Syntax.bare_of_read hread
    generalize e.root = root at hbare hkind hvalue hidentifier
    rcases hbare with _ | _ | _ | _ | _ | _ | hget
    case identifier name => exact hsound _ (.undefinedVariable hkind hvalue hget)
    all_goals cases hidentifier

/-! ### What may stand in the way of an evaluation -/

namespace Session

variable {s : Session} {text : String} {e : Expr}

/-- What may stand in the way of an evaluation of an expression that was read, and the fault that it
ends by then. -/
inductive Hinders (s : Session) (e : Expr) : Fault → Prop
  /-- A filter on input. -/
  | refused (h : s.admits e = false) : Hinders s e (.invalidInput .expressionRefused)
  /-- A filter on commands. -/
  | forbidden {name : String} {c : Command} (hroot : e.root.commandName? = some name)
      (hfind : Command.find? name = some c) (h : s.engine.allows c = false) :
      Hinders s e (.commandNotAllowed name)
  /-- The lack of a processor for a command of the catalogue. -/
  | unprocessed {name : String} {c : Command} (hroot : e.root.commandName? = some name)
      (hfind : Command.find? name = some c) (h : s.engine.processors.get? name = none) :
      Hinders s e (.unknownCommand name)
  /-- A filter on arguments. -/
  | argument {name : String} {f : ArgumentFilter} {fault : Fault}
      (hroot : e.root.commandName? = some name) (hf : f ∈ s.engine.argumentFilters.filters)
      (h : f.check name e.root.arguments = .error fault) : Hinders s e fault
  /-- The processor of a command of the catalogue. -/
  | processor {name : String} {c : Command} {p : Processor} {options : Options} {fault : Fault}
      (hroot : e.root.commandName? = some name) (hfind : Command.find? name = some c)
      (hp : s.engine.processors.get? name = some p)
      (h : (p c e.root.arguments options).answer = .error fault) : Hinders s e fault
  /-- A tuple that is no point. -/
  | tuple {text : String} (hroot : e.root = .leaf .point (.text text)) :
      Hinders s e (.invalidInput (.invalidPoint text))
  /-- A variable that holds an expression. -/
  | held {name : String} {x : Expr} (hroot : e.root = .leaf .variable (.expr x))
      (hget : s.vars.get? name = some (.expr x)) : Hinders s e (.invalidInput (.unsupported x.kind))
  /-- A filter on results. -/
  | withheld {options : Options} {c : Construction} {figures : List Figure}
      (hcomputed : (GeoScript.evaluate s.engine options e c).answer = .ok figures)
      (h : s.releases figures = false) : Hinders s e (.invalidInput .resultRefused)
  /-- A label for no figures. -/
  | nothing {options : Options} {c : Construction} {label : String}
      (hcomputed : (GeoScript.evaluate s.engine options e c).answer = .ok [])
      (h : label ∈ e.labelChain) : Hinders s e (.invalidInput (.emptyResult label))

theorem hinders_of_evaluate (hread : s.workspace.read text = .ok e) {options : Options}
    (hl : options.labels = false) (hr : options.redefinition = true)
    (hcatalogued : ∀ name, e.root.commandName? = some name → ∃ c, Command.find? name = some c)
    (hidentifier : e.root.kind ≠ .identifier) {c : Construction} {fault : Fault}
    (h : (GeoScript.evaluate s.engine options e c).answer = .error fault) : s.Hinders e fault := by
  have hleaf : ∀ {kind : ExprKind} {v : Value}, e.root = .leaf kind v → kind ≠ .command →
      kind ≠ .assignment → simpleFigure (.leaf kind v) = .error fault := by
    intro kind v hroot hc ha
    rw [(evaluate_quiet c hl hr s.engine e).2, hroot, evaluate_leaf v hc ha] at h
    exact error_of_map h
  have hbare := Syntax.bare_of_read hread
  generalize hroot : e.root = root at hbare
  cases hbare with
  | call name arguments =>
    have hname : e.root.commandName? = some name := by
      rw [hroot]
      rfl
    obtain ⟨d, hfind⟩ := hcatalogued name hname
    rw [answer_evaluate_call c hl hr s.engine hname] at h
    rcases Engine.call_error_of_find hfind h with ⟨hallows, rfl⟩ | ⟨hnone, rfl⟩ |
      ⟨f, hf, hcheck⟩ | ⟨p, hp, hfault⟩
    · exact .forbidden hname hfind hallows
    · exact .unprocessed hname hfind hnone
    · exact .argument hname hf hcheck
    · exact .processor hname hfind hp hfault
  | number n => cases hleaf hroot (by decide) (by decide)
  | point p => cases hleaf hroot (by decide) (by decide)
  | tuple text =>
    cases hleaf hroot (by decide) (by decide)
    exact .tuple hroot
  | list items => cases hleaf hroot (by decide) (by decide)
  | @«variable» name v hget =>
    have hvalue : Figure.ofValue v = .error fault := hleaf hroot (by decide) (by decide)
    rcases v with n | p | items | text | x
    case expr =>
      cases hvalue
      exact .held hroot hget
    all_goals cases hvalue
  | identifier hget =>
    rw [hroot] at hidentifier
    exact absurd rfl hidentifier

/-- **A fault in the evaluation of a text that was read,** if the command under the labels is in the
catalogue and no identifier stands there. -/
theorem hinders_of_evaluateText (hread : s.workspace.read text = .ok e) {options : Options}
    (hr : options.redefinition = true)
    (hcatalogued : ∀ name, e.root.commandName? = some name → ∃ c, Command.find? name = some c)
    (hidentifier : e.root.kind ≠ .identifier) {c : Construction} {fault : Fault}
    (h : (s.evaluateText text options c).answer = .error fault) : s.Hinders e fault := by
  rw [answer_evaluateText_of_read hr hread] at h
  split at h
  · rcases error_of_bind h with hfault | ⟨figures, hcomputed, h⟩
    · exact hinders_of_evaluate hread (Options.labels_withLabels options false) hr hcatalogued
        hidentifier hfault
    · split at h
      · have hbind := error_of_map h
        have he := Expr.shaped_of_read hread
        rcases hwanted : options.labels && !c.suppressed with _ | _
        · cases (bindLabels_quiet he hwanted).1.symm.trans hbind
        · by_cases hfigures : figures = []
          · subst hfigures
            rw [(bindLabels_nothing he hwanted).2] at hbind
            rcases hchain : e.labelChain with _ | ⟨label, labels⟩
            · rw [hchain] at hbind
              cases hbind
            · rw [hchain] at hbind
              cases hbind
              exact .nothing hcomputed (hchain ▸ List.mem_cons_self)
          · cases (bindLabels_figures he hwanted hfigures).1.symm.trans hbind
      · next hreleases =>
        cases h
        exact .withheld hcomputed (by simpa using hreleases)
  · next hadmits =>
    cases h
    exact .refused (by simpa using hadmits)

/-! ### Validating -/

theorem answer_validate_of_error {fault : Fault} (hread : s.workspace.read text = .error fault)
    (stamp : Stamp) : (s.validate stamp text).answer = [.unreadable fault] := by
  have hread' : Expr.read s.vars text = .error fault := hread
  change problemsOfText s.vars text = _
  unfold problemsOfText
  rw [hread']

theorem answer_validate_of_read (hread : s.workspace.read text = .ok e) (stamp : Stamp) :
    (s.validate stamp text).answer = e.problems s.vars := by
  have hread' : Expr.read s.vars text = .ok e := hread
  change problemsOfText s.vars text = _
  unfold problemsOfText
  rw [hread']

/-- **Validating agrees with evaluating, and misses nothing.** The only problem of a text that
cannot be read is the fault of reading it. The problems of any other text are those of the faulty
nodes of its tree, each in its place: calls of commands that are not in the catalogue, and
identifiers that stand for nothing, under the labels or in the value of a variable. A text without
problems is read, to a tree with no command under the labels but of the catalogue, and no identifier
there; what stands in the way of its evaluation is something else. Validating changes nothing. -/
theorem validation_agrees_with_evaluation (s : Session) (stamp : Stamp) (text : String) :
    (∀ fault, s.workspace.read text = .error fault →
      (s.validate stamp text).answer.map Problem.message = [fault.message]) ∧
    (∀ e, s.workspace.read text = .ok e →
      (∃ places, e.Located s.vars places (s.validate stamp text).answer) ∧
      ∀ path x, e.node? path = some x → x.kind = .identifier →
        x = e.root ∨ Syntax.FromVariable s.vars x) ∧
    (∀ name, Problem.message (.unknownCommand name) = "Unknown command: " ++ name ∧
      Problem.message (.undefinedVariable name) = "Undefined variable: " ++ name) ∧
    ((s.validate stamp text).answer = [] → ∃ e, s.workspace.read text = .ok e ∧
      (∀ name, e.root.commandName? = some name → ∃ c, Command.find? name = some c) ∧
      e.root.kind ≠ .identifier ∧
      (∀ sliders fault, (s.runStrict text sliders).answer = .error fault → s.Hinders e fault) ∧
      ∀ stamp fault, (s.evaluate stamp text).answer = .error fault → s.Hinders e fault) ∧
    (s.validate stamp text).session = s := by
  refine ⟨fun fault hread => ?_, fun e hread => ⟨?_, ?_⟩, fun name => ⟨rfl, rfl⟩, fun hnone => ?_,
    rfl⟩
  · rw [answer_validate_of_error hread]
    rfl
  · rw [answer_validate_of_read hread]
    exact e.exists_located s.vars
  · intro path x hnode hx
    exact (Expr.accepted_of_read hread).identifier_cases hnode hx
  · rcases hread : s.workspace.read text with fault | e
    · rw [answer_validate_of_error hread] at hnone
      cases hnone
    · rw [answer_validate_of_read hread] at hnone
      obtain ⟨hcatalogued, hidentifier⟩ := Expr.root_of_problems_eq_nil hread hnone
      refine ⟨e, rfl, hcatalogued, hidentifier, fun sliders fault hfault => ?_,
        fun stamp fault hfault => ?_⟩
      · exact hinders_of_evaluateText hread (Options.redefinition_run sliders) hcatalogued
          hidentifier hfault
      · exact hinders_of_evaluateText hread Options.redefinition_evaluate hcatalogued hidentifier
          hfault

/-- A text that cannot be read; one with an unknown call around a variable that holds another, and
after it, in a list, an identifier in a variable and a third unknown call; and a variable without
problems, which holds an expression. -/
theorem validation_agrees_with_evaluation_variables :
    let point := Expr.command "Point" [.text "b"]
    let vars : Syntax.Variables := ⟨[("u", .expr point), ("v", .list [.expr (.command "Foo" [])]),
      ("w", .expr (.leaf .identifier (.text "zz")))]⟩
    let s := Session.initial.withVariables vars
    let stamp : Stamp := ⟨"algebra", ⟨"e1"⟩, 3⟩
    (∃ fault, s.workspace.read "A = Line(1" = .error fault ∧
      (s.validate stamp "A = Line(1").answer.map Problem.message = [fault.message]) ∧
    (∃ e places, s.workspace.read "A = Line(Bar(v), [w, Baz(2)])" = .ok e ∧
      e.Located vars places [.unknownCommand "Bar", .unknownCommand "Foo",
        .undefinedVariable "zz", .unknownCommand "Baz"]) ∧
    (s.validate stamp "A = u").answer = [] ∧
      (s.runStrict "A = u" false).answer = .error (.invalidInput (.unsupported .command)) ∧
      s.Hinders (.assignment "A" (.leaf .variable (.expr point)))
        (.invalidInput (.unsupported .command)) := by
  intro point vars s stamp
  have hline : ∃ fault, s.workspace.read "A = Line(1" = .error fault := ⟨_, by cbv⟩
  obtain ⟨fault, hline⟩ := hline
  have hbar : s.workspace.read "A = Line(Bar(v), [w, Baz(2)])" = .ok ((Expr.command "Line"
      [.expr (.command "Bar" [.list [.expr (.command "Foo" [])]]),
        .list [.expr (.leaf .identifier (.text "zz")),
          .expr (.command "Baz" [.number (.int 2)])]]).withLabel "A") := by cbv
  have hu : s.workspace.read "A = u" = .ok (.assignment "A" (.leaf .variable (.expr point))) := by
    cbv
  have hnone : (s.validate stamp "A = u").answer = [] := by
    rw [answer_validate_of_read hu]
    rfl
  have hfault : (s.runStrict "A = u" false).answer =
      .error (.invalidInput (.unsupported .command)) := by
    change (s.evaluateText "A = u" _ _).answer = _
    rw [answer_evaluateText_of_read rfl hu]
    rfl
  refine ⟨⟨fault, hline, ?_⟩, ?_, hnone, hfault, ?_⟩
  · exact (validation_agrees_with_evaluation s stamp "A = Line(1").1 fault hline
  · obtain ⟨-, hlocated, -⟩ := validation_agrees_with_evaluation s stamp
      "A = Line(Bar(v), [w, Baz(2)])"
    obtain ⟨⟨places, hlocated⟩, -⟩ := hlocated _ hbar
    rw [answer_validate_of_read hbar] at hlocated
    exact ⟨_, places, hbar, hlocated⟩
  · obtain ⟨-, -, -, hvalid, -⟩ := validation_agrees_with_evaluation s stamp "A = u"
    obtain ⟨e, hread, -, -, hhinders, -⟩ := hvalid hnone
    cases hread.symm.trans hu
    exact hhinders false _ hfault

/-- An identifier that is in the value of a variable and stands for nothing is a problem, although
no command is called and what is under the labels is no identifier. -/
theorem validation_looks_into_variables :
    let s := Session.initial.setVariable "v" (.expr (.leaf .identifier (.text "zz")))
    ∃ e, s.workspace.read "v" = .ok e ∧
      (∀ path x, e.node? path = some x → x.kind ≠ .command) ∧ e.root.kind ≠ .identifier ∧
      ∀ stamp, (s.validate stamp "v").answer = [.undefinedVariable "zz"] := by
  intro s
  have hread : s.workspace.read "v" =
      .ok (.leaf .variable (.expr (.leaf .identifier (.text "zz")))) := by cbv
  refine ⟨_, hread, ?_, by decide, fun stamp => ?_⟩
  · intro path x hnode
    rcases path with _ | ⟨i, path⟩
    · cases hnode
      decide
    · obtain ⟨y, hy, hnode⟩ := Option.bind_eq_some_iff.mp hnode
      rw [Expr.inner_leaf, Value.expressions, List.getElem?_singleton] at hy
      split at hy <;> cases hy
      rcases path with _ | ⟨j, path⟩
      · cases hnode
        decide
      · cases hnode
  · rw [answer_validate_of_read hread]
    rfl

end Session

end GeoScript
