import GeoScript.Proofs.Evaluation.Filtering
import GeoScript.Proofs.Evaluation.Resolution

/-! # Calls among arguments

A call may have calls among its arguments, in lists or outside of them and to any depth. These are
values like others: they are not evaluated, and whether they could be is not asked. What an engine
does with other commands than the one that is called is therefore of no consequence, and the figure
that the basic processor makes of the arguments holds the calls among them as they were read.

* `Engine.AgreesOn`: two engines that do the same with one command, and anything with others.
* `AgreesOn.call_eq`: the calls of this command are the same.
* `evaluate_eq_of_agreesOn`: so are the evaluations of trees with this command under the labels.
* `Figure.parts`: the values that a figure is made of.
* `item?_parts_of_figure?`: an expression stands in a figure where it stood among the arguments.
* `Engine.nested_calls_are_inert`: the main statement. -/

namespace GeoScript

/-! ### Engines that agree on a command -/

namespace Engine

variable {e e' : Engine} {name : String}

/-- Both engines allow the command or neither does, they have the same processor for it or none, and
the same filters on arguments. About other commands nothing is said. -/
structure AgreesOn (e e' : Engine) (name : String) : Prop where
  verdict : ∀ c, Command.find? name = some c → e.allows c = e'.allows c
  processor : e.processors.get? name = e'.processors.get? name
  argumentFilters : e.argumentFilters.filters = e'.argumentFilters.filters

/-- **The calls of the command are the same,** whatever their arguments hold. -/
theorem AgreesOn.call_eq (h : e.AgreesOn e' name) (arguments : List Value) (options : Options) :
    e.call name arguments options = e'.call name arguments options := by
  have hcheck : e.checkArguments name arguments = e'.checkArguments name arguments := by
    unfold checkArguments
    rw [h.argumentFilters]
  unfold call
  cases hfind : Command.find? name with
  | none => rfl
  | some c =>
    have hallows := h.verdict c hfind
    dsimp only
    rw [hallows, h.processor, hcheck]

end Engine

/-- **An evaluation asks the engine about one command at most,** that under the labels. -/
theorem evaluate_eq_of_agreesOn {engine engine' : Engine} {e : Expr}
    (h : ∀ name, e.root.commandName? = some name → engine.AgreesOn engine' name)
    (options : Options) : evaluate engine options e = evaluate engine' options e := by
  induction e using evaluate.induct with
  | case1 rhs label children ih =>
    rw [Expr.root] at h
    rw [evaluate, evaluate, ih h]
  | case2 value label children hmalformed =>
    rw [evaluate.eq_2 _ _ _ _ _ hmalformed, evaluate.eq_2 _ _ _ _ _ hmalformed]
  | case3 value label children =>
    rw [Expr.root] at h
    rw [evaluate.eq_3, evaluate.eq_3]
    unfold evaluateCommand
    cases hname : Expr.commandName? { kind := .command, value, label, children } with
    | none => rfl
    | some name =>
      have hagrees := h name hname
      dsimp only
      simp only [hagrees.call_eq]
  | case4 e h1 h2 h3 => rw [evaluate.eq_4 _ _ _ h1 h2 h3, evaluate.eq_4 _ _ _ h1 h2 h3]

/-! ### What a figure is made of -/

theorem Value.allToData_eq_map (vs : List Value) : Value.allToData vs = vs.map Value.toData := by
  induction vs with
  | nil => rfl
  | cons v vs ih => rw [Value.allToData, ih, List.map_cons]

namespace Figure

/-- The values that a figure is made of, in the order of its fields. -/
def parts : Figure → List Value
  | .point x y z => [.number x, .number y] ++ (z.map Value.number).toList
  | .line a b | .segment a b | .circle a b | .intersection a b | .distance a b | .midpoint a b =>
    [a, b]
  | .length object => [object]
  | .angle a vertex b => [a, vertex, b]
  | .number value => [.number value]
  | .list items => [.list items]
  | .text value => [.text value]

/-- **The fields of a figure are its parts,** and nothing else is in them. -/
theorem fields_eq_parts (f : Figure) : f.fields.map Prod.snd = f.parts.map Value.toData := by
  cases f with
  | point x y z => cases z <;> rfl
  | list items =>
    have hitems : Value.toData (.list items) = .list (items.map Value.toData) := by
      rw [Value.toData, Value.allToData_eq_map]
    exact congrArg (fun d => [d]) hitems.symm
  | _ => rfl

end Figure

namespace Value

/-- A number or a point: a value with nothing in it. -/
def IsScalar (v : Value) : Prop := (∃ n, v = .number n) ∨ ∃ p, v = .point p

theorem item?_ne_expr {vs : List Value} (h : ∀ v ∈ vs, v.IsScalar) (path : List Nat) (x : Expr) :
    (Value.list vs).item? path ≠ some (.expr x) := by
  intro hitem
  cases path with
  | nil => cases hitem
  | cons i path =>
    obtain ⟨v, hv, hitem⟩ := Option.bind_eq_some_iff.mp hitem
    have hmem := List.mem_of_getElem? hv
    rcases h v hmem with ⟨n, rfl⟩ | ⟨p, rfl⟩
    all_goals
      cases path with
      | nil => cases hitem
      | cons j path => cases hitem

theorem isScalar_of_number? {v : Value} {n : Number} (h : v.number? = some n) : v.IsScalar := by
  cases v with
  | number n => exact .inl ⟨n, rfl⟩
  | _ => cases h

theorem isScalar_of_mapM_number? {vs : List Value} {ns : List Number}
    (h : vs.mapM Value.number? = some ns) : ∀ v ∈ vs, v.IsScalar := by
  have hall := mapM_eq_some_iff.mp h
  clear h
  induction hall with
  | nil => exact List.forall_mem_nil _
  | cons hv _ ih => exact List.forall_mem_cons.mpr ⟨isScalar_of_number? hv, ih⟩

end Value

theorem Figure.isScalar_of_mem_parts_ofCoordinates {p : Coordinates} {v : Value}
    (h : v ∈ (ofCoordinates p).parts) : v.IsScalar := by
  unfold ofCoordinates parts at h
  rcases List.mem_append.mp h with h | h
  · simp only [List.mem_cons, List.not_mem_nil, or_false] at h
    rcases h with rfl | rfl
    · exact .inl ⟨.float p.x, rfl⟩
    · exact .inl ⟨.float p.y, rfl⟩
  · rw [Option.mem_toList] at h
    obtain ⟨n, -, rfl⟩ := Option.map_eq_some_iff.mp h
    exact .inl ⟨n, rfl⟩

/-- The parts of a figure are the arguments, or there are numbers and points only. -/
theorem figure?_cases {c : Command} {vs : List Value} {f : Figure} (h : figure? c vs = some f) :
    f.parts = vs ∨ (∀ v ∈ vs, v.IsScalar) ∧ ∀ v ∈ f.parts, v.IsScalar := by
  have hsum : ∀ g : List Number → Number, (vs.mapM Value.number?).map (fun ns => .number (g ns)) =
      some f → (∀ v ∈ vs, v.IsScalar) ∧ ∀ v ∈ f.parts, v.IsScalar := by
    intro g hg
    obtain ⟨ns, hns, rfl⟩ := Option.map_eq_some_iff.mp hg
    have hone : (Value.number (g ns)).IsScalar := .inl ⟨g ns, rfl⟩
    exact ⟨Value.isScalar_of_mapM_number? hns, List.forall_mem_singleton.mpr hone⟩
  unfold figure? at h
  split at h
  case h_2 p =>
    cases h
    have hone : (Value.point p).IsScalar := .inr ⟨p, rfl⟩
    exact .inr ⟨List.forall_mem_singleton.mpr hone,
      fun v => Figure.isScalar_of_mem_parts_ofCoordinates⟩
  case h_11 => exact .inr (hsum sumOf h)
  case h_12 => exact .inr (hsum meanOf h)
  case h_13 => cases h
  all_goals
    cases h
    exact .inl rfl

/-- **An expression stands in a figure where it stood among the arguments.** -/
theorem item?_parts_of_figure? {c : Command} {vs : List Value} {f : Figure}
    (h : figure? c vs = some f) (path : List Nat) (x : Expr) :
    (Value.list f.parts).item? path = some (.expr x) ↔
      (Value.list vs).item? path = some (.expr x) := by
  rcases figure?_cases h with hparts | ⟨harguments, hparts⟩
  · rw [hparts]
  · have hnone := Value.item?_ne_expr harguments path x
    have hnone' := Value.item?_ne_expr hparts path x
    exact ⟨fun h => absurd h hnone', fun h => absurd h hnone⟩

theorem Value.resolve_eq_expr_iff {v : Value} {x : Expr} :
    v.resolve = .expr x ↔ v = .expr x := by
  cases v with
  | text s => rcases resolveText_cases s with ⟨p, h⟩ | ⟨n, h⟩ | h <;> rw [resolve, h] <;> simp
  | list items => simp [resolve]
  | number n => rfl
  | point p => rfl
  | expr e => rfl

theorem basicProcessor_ok {c : Command} {arguments : List Value} {options : Options}
    {figures : List Figure} (h : (basicProcessor c arguments options).answer = .ok figures) :
    ∃ f, figures = [f] ∧ figure? c (Value.resolveAll arguments) = some f := by
  unfold basicProcessor at h
  cases hcount : checkCount c.name arguments 1 (some 10) with
  | error fault =>
    rw [hcount] at h
    cases h
  | ok u =>
    rw [hcount] at h
    have hcompute : compute c (Value.resolveAll arguments) = .ok figures := h
    unfold compute at hcompute
    split at hcompute
    · cases hf : figure? c (Value.resolveAll arguments) with
      | none =>
        rw [hf] at hcompute
        cases hcompute
      | some f =>
        rw [hf] at hcompute
        cases hcompute
        exact ⟨f, rfl, rfl⟩
    · cases hcompute

/-- **Calls among arguments are inert.** If two engines do the same with a command, whatever they do
with all others, a call of it is the same in both, events included, and so is the evaluation of
every tree that has this command under its labels. If the processor of the command is the basic one,
an answer is one figure, whose fields are values, and the expressions in these are exactly those
among the arguments, each in its place. -/
theorem Engine.nested_calls_are_inert :
    (∀ (e e' : Engine) (name : String), e.AgreesOn e' name →
      (∀ arguments options, e.call name arguments options = e'.call name arguments options) ∧
      ∀ tree : Expr, tree.root.commandName? = some name →
        ∀ options, evaluate e options tree = evaluate e' options tree) ∧
    ∀ (e : Engine) (name : String), e.processors.get? name = some basicProcessor →
      ∀ arguments options figures, (e.call name arguments options).answer = .ok figures →
        ∃ f, figures = [f] ∧ f.fields.map Prod.snd = f.parts.map Value.toData ∧
          ∀ path x, (Value.list f.parts).item? path = some (.expr x) ↔
            (Value.list arguments).item? path = some (.expr x) := by
  refine ⟨fun e e' name hagrees => ⟨hagrees.call_eq, fun tree hroot => ?_⟩, ?_⟩
  · refine evaluate_eq_of_agreesOn fun other hother => ?_
    rw [hroot] at hother
    cases hother
    exact hagrees
  · intro e name hbasic arguments options figures hok
    obtain ⟨c, p, hreaches⟩ := reaches_of_ok hok
    have hp : p = basicProcessor := Option.some.inj (hreaches.installed.symm.trans hbasic)
    subst hp
    rw [hreaches.call_eq options] at hok
    obtain ⟨f, rfl, hf⟩ := basicProcessor_ok hok
    refine ⟨f, rfl, f.fields_eq_parts, fun path x => ?_⟩
    have hitem := Value.item?_resolve (.list arguments) path
    rw [item?_parts_of_figure? hf]
    change ((Value.list arguments).resolve.item? path = _) ↔ _
    rw [hitem, Option.map_eq_some_iff]
    simp only [Value.resolve_eq_expr_iff, exists_eq_right]

/-- A line through a sum, which adds an unknown command up, and a list with another call in it. An
engine that allows nothing but lines, and does not add anyway, makes the same of it. -/
theorem Engine.nested_calls_are_inert_line :
    let refusing : Processor := fun c _ _ => .fail (.notImplemented c.name)
    let strict : Engine :=
      { initial.register "Sum" refusing with commandFilters := .add .empty (.only [.line]) }
    let sum := Expr.command "Sum" [.number (.int 1), .expr (.command "Bogus" [.text "2"])]
    let hidden := Expr.command "Hide" [.text "7"]
    let arguments : List Value := [.expr sum, .list [.text "7", .expr hidden]]
    initial.AgreesOn strict "Line" ∧ strict.processors.get? "Line" = some basicProcessor ∧
      initial.allows .sum = true ∧ strict.allows .sum = false ∧
      initial.call "Line" arguments .standard = strict.call "Line" arguments .standard ∧
      ∃ f, (strict.call "Line" arguments .standard).answer = .ok [f] ∧
        (Value.list f.parts).item? [0] = some (.expr sum) ∧
        (Value.list f.parts).item? [1, 1] = some (.expr hidden) := by
  intro refusing strict sum hidden arguments
  have hbasic : strict.processors.get? "Line" = some basicProcessor := rfl
  have hagrees : initial.AgreesOn strict "Line" := by
    refine ⟨fun c hfind => ?_, rfl, rfl⟩
    have hline : Command.find? "Line" = some .line := rfl
    rw [hline] at hfind
    cases hfind
    rfl
  obtain ⟨hinert, hkept⟩ := nested_calls_are_inert
  have hcall := (hinert initial strict "Line" hagrees).1 arguments .standard
  have hok : ∃ f, (strict.call "Line" arguments .standard).answer = .ok [f] := ⟨_, rfl⟩
  obtain ⟨f, hok⟩ := hok
  obtain ⟨g, hg, -, hitem⟩ := hkept strict "Line" hbasic arguments .standard [f] hok
  cases hg
  exact ⟨hagrees, hbasic, rfl, rfl, hcall, f, hok, (hitem [0] sum).mpr rfl,
    (hitem [1, 1] hidden).mpr rfl⟩

end GeoScript
