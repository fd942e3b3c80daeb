import GeoScript.Proofs.Evaluation.Filtering
import GeoScript.Proofs.Profile.Enforcement
import GeoScript.Proofs.Session.Moves

/-! # Profiles in either order

Two profiles can be applied to a session one after the other, in either order. What differs then is
the order of the filters, the numbers of their handles, and the settings, which are those of the
profile that comes last. If no processor looks at the setting for sliders, none of this shows in
what is accepted or in any result, now or after whatever is done in both sessions alike; it shows in
faults only.

* `Session.Interchangeable`: two sessions that differ at most like this.
* `Interchangeable.sameResults`: they accept the same texts, with the same results.
* `Move.Commutes`, `Interchangeable.afterAll`: and they go on like this.
* `interchangeable_restrict`: profiles in either order.
* `filters_in_any_order`: the main statement, on calls and on profiles. -/

namespace GeoScript

namespace Session

/-- Two sessions differ at most in the order of their filters on commands and arguments, in the
handles of these, in the log of faults and in the setting for sliders, at which no processor
looks. -/
structure Interchangeable (s t : Session) : Prop extends SameGround s t where
  engine : s.engine.Reordered t.engine
  ignoresSliders : s.engine.IgnoresSliders

/-- Every way to evaluate a text accepts it in both sessions, and with the same result, or in
neither. -/
structure SameResults (s t : Session) (text : String) : Prop where
  run : ∀ stamp, (s.run stamp text).answer = (t.run stamp text).answer
  strict : ∀ sliders,
    (s.runStrict text sliders).answer.toOption = (t.runStrict text sliders).answer.toOption
  evaluated : ∀ stamp,
    (s.evaluate stamp text).answer.toOption = (t.evaluate stamp text).answer.toOption
  redefined : ∀ stamp label wanted,
    (s.redefine stamp label text wanted).answer.toOption =
      (t.redefine stamp label text wanted).answer.toOption

/-- Two replies come to the same, but for the words of a fault. -/
structure Corresponds (r r' : Reply (Except Fault (List Figure))) : Prop where
  answer : r.answer.toOption = r'.answer.toOption
  session : r.session.Interchangeable r'.session

/-! ### Evaluating a text -/

section Evaluate

variable {s t : Session} (h : s.Interchangeable t)

include h

/-- The engine is asked for calls only, if for anything. -/
theorem Interchangeable.toOption_evaluate {options : Options} (hl : options.labels = false)
    (hr : options.redefinition = true) (sliders : Bool) (e : Expr) (c : Construction) :
    (GeoScript.evaluate s.engine options e c).answer.toOption =
      (GeoScript.evaluate t.engine (options.withSliders sliders) e c).answer.toOption := by
  have hl' : (options.withSliders sliders).labels = false := hl
  have hr' : (options.withSliders sliders).redefinition = true := hr
  by_cases hkind : e.root.kind = .command
  · rw [(evaluate_quiet c hl hr s.engine e).2, (evaluate_quiet c hl' hr' t.engine e).2]
    generalize e.root = root at hkind
    obtain ⟨kind, value, label, children⟩ := root
    cases hkind
    rw [GeoScript.evaluate.eq_3, GeoScript.evaluate.eq_3,
      (evaluateCommand_quiet c hl hr s.engine value label children).1,
      (evaluateCommand_quiet c hl' hr' t.engine value label children).1]
    split
    · rfl
    · exact h.engine.toOption_call h.ignoresSliders ..
  · rw [answer_evaluate_leaf c hl hr s.engine hkind hl' hr' t.engine]

/-- **A text is accepted by both or by neither,** with the same result. -/
theorem Interchangeable.toOption_evaluateText {options : Options}
    (hr : options.redefinition = true) (sliders : Bool) (text : String) (c : Construction) :
    (s.evaluateText text options c).answer.toOption =
      (t.evaluateText text (options.withSliders sliders) c).answer.toOption := by
  have hr' : (options.withSliders sliders).redefinition = true := hr
  rw [answer_evaluateText s text c hr, answer_evaluateText t text c hr', read_congr h.vars,
    admits_congr h.inputFilters, releases_congr h.outputFilters]
  split
  · rfl
  · rw [toOption_bind, toOption_bind]
    congr 1
    funext e
    split
    · have hcomputed := h.toOption_evaluate (Options.labels_withLabels options false) hr sliders e c
      have hlabels : options.labels = (options.withSliders sliders).labels := rfl
      simp only [toOption_bind, bindLabels_congr hlabels]
      exact congrArg (Option.bind · _) hcomputed
    · rfl

theorem Interchangeable.state_evaluateText {options : Options} (hr : options.redefinition = true)
    (sliders : Bool) (text : String) (c : Construction) :
    (s.evaluateText text options c).state =
      (t.evaluateText text (options.withSliders sliders) c).state := by
  have hr' : (options.withSliders sliders).redefinition = true := hr
  have hlabels : options.labels = (options.withSliders sliders).labels := rfl
  rw [Session.state_evaluateText s text c hr, Session.state_evaluateText t text c hr',
    read_congr h.vars]
  rcases cases_of_toOption_eq (h.toOption_evaluateText hr sliders text c) with
    ⟨figures, hs, ht⟩ | ⟨fault, fault', hs, ht⟩
  · rw [hs, ht]
    simp only [commit_congr hlabels]
  · rw [hs, ht]

theorem Interchangeable.withConstruction (c : Construction) :
    (s.withConstruction c).Interchangeable (t.withConstruction c) :=
  ⟨⟨h.vars, rfl, h.inputFilters, h.outputFilters⟩, h.engine, h.ignoresSliders⟩

theorem Interchangeable.perform {x y : Action Construction (List Figure)}
    (hanswer : (x s.construction).answer.toOption = (y s.construction).answer.toOption)
    (hstate : (x s.construction).state = (y s.construction).state) :
    Corresponds (s.perform x) (t.perform y) := by
  refine ⟨?_, ?_⟩
  · change (x s.construction).answer.toOption = (y t.construction).answer.toOption
    rw [← h.construction]
    exact hanswer
  · rw [session_perform, session_perform, ← h.construction, ← hstate]
    exact h.withConstruction _

theorem Interchangeable.runStrict (text : String) (sliders sliders' : Bool) :
    Corresponds (s.runStrict text sliders) (t.runStrict text sliders') :=
  h.perform (h.toOption_evaluateText (Options.redefinition_run sliders) sliders' text _)
    (h.state_evaluateText (Options.redefinition_run sliders) sliders' text _)

theorem Interchangeable.evaluate (stamp : Stamp) (text : String) :
    Corresponds (s.evaluate stamp text) (t.evaluate stamp text) :=
  let ⟨hanswer, hsession⟩ := h.perform
    (h.toOption_evaluateText Options.redefinition_evaluate false text _)
    (h.state_evaluateText Options.redefinition_evaluate false text _)
  ⟨hanswer, hsession⟩

theorem Interchangeable.redefine (stamp : Stamp) (label text : String) (wanted : Bool) :
    Corresponds (s.redefine stamp label text wanted) (t.redefine stamp label text wanted) := by
  have hanswer : (s.redefinition label text wanted s.construction).answer.toOption =
      (t.redefinition label text wanted s.construction).answer.toOption := by
    have htext := h.toOption_evaluateText redefinition_redefinitionOptions true text s.construction
    rw [answer_redefinition, answer_redefinition, h.construction]
    split
    · rfl
    · split
      · rfl
      · rw [toOption_bind, toOption_bind, ← h.construction]
        exact congrArg (Option.bind · _) htext
  have hstate : (s.redefinition label text wanted s.construction).state =
      (t.redefinition label text wanted s.construction).state := by
    rw [state_redefinition, state_redefinition]
    rcases cases_of_toOption_eq hanswer with ⟨figures, hs, ht⟩ | ⟨fault, fault', hs, ht⟩ <;>
      rw [hs, ht]
  obtain ⟨ha, hi⟩ := h.perform hanswer hstate
  exact ⟨ha, hi⟩

theorem Interchangeable.run (stamp : Stamp) (text : String) :
    (s.run stamp text).answer = (t.run stamp text).answer ∧
      (s.run stamp text).session.Interchangeable (t.run stamp text).session := by
  obtain ⟨hanswer, hsession⟩ := h.runStrict text s.sliders t.sliders
  rcases run_cases s stamp text with ⟨f, hs, has, hss⟩ | ⟨f, hs, has, hss⟩ <;>
    rcases run_cases t stamp text with ⟨g, ht, hat, hst⟩ | ⟨g, ht, hat, hst⟩ <;>
    rw [hs, ht] at hanswer
  · rw [has, hat, hss, hst]
    exact ⟨hanswer, hsession⟩
  · cases hanswer
  · cases hanswer
  · rw [has, hat, hss, hst]
    exact ⟨rfl, ⟨h.vars, h.construction, h.inputFilters, h.outputFilters⟩, h.engine,
      h.ignoresSliders⟩

/-- **Interchangeable sessions accept the same texts,** with the same results. -/
theorem Interchangeable.sameResults (text : String) : s.SameResults t text where
  run := fun stamp => (h.run stamp text).1
  strict := fun sliders => (h.runStrict text sliders sliders).answer
  evaluated := fun stamp => (h.evaluate stamp text).answer
  redefined := fun stamp label wanted => (h.redefine stamp label text wanted).answer

end Evaluate

/-! ### Going on -/

/-- A move that detaches no filter on commands or arguments, as handles are not the same in
interchangeable sessions, and installs no processor that looks at sliders. -/
def Move.Commutes : Move → Prop
  | .removeCommandFilter _ | .removeArgumentFilter _ => False
  | .register _ p => p.IgnoresSliders
  | _ => True

theorem interchangeable_withEngine {s t : Session} (h : s.SameGround t) {e e' : Engine}
    (he : e.Reordered e') (hs : e.IgnoresSliders) :
    (s.withEngine e).Interchangeable (t.withEngine e') :=
  ⟨⟨h.vars, h.construction, h.inputFilters, h.outputFilters⟩, he, hs⟩

/-- **One move more in both sessions.** -/
theorem Interchangeable.after {s t : Session} (h : s.Interchangeable t) {m : Move}
    (hm : m.Commutes) : (s.after m).Interchangeable (t.after m) := by
  cases m with
  | run stamp text => exact (h.run stamp text).2
  | runStrict text sliders => exact (h.runStrict text sliders sliders).session
  | evaluate stamp text => exact (h.evaluate stamp text).session
  | redefine stamp label text wanted => exact (h.redefine stamp label text wanted).session
  | validate stamp text => exact h
  | bind label figures =>
    simp only [Session.after, bind?, ← h.construction]
    cases s.construction.bind? label figures with
    | error problem => exact h
    | ok bound => exact h.withConstruction bound
  | remove label =>
    rw [Session.after, Session.after, remove, remove, ← h.construction]
    exact h.withConstruction _
  | clear =>
    rw [Session.after, Session.after, clear, clear, ← h.construction]
    exact ⟨⟨rfl, rfl, h.inputFilters, h.outputFilters⟩, h.engine, h.ignoresSliders⟩
  | suppress suppressed =>
    rw [Session.after, Session.after, suppress, suppress, ← h.construction]
    exact h.withConstruction _
  | setVariable name value =>
    exact ⟨⟨congrArg (·.insert name value) h.vars, h.construction, h.inputFilters,
      h.outputFilters⟩, h.engine, h.ignoresSliders⟩
  | clearVariables =>
    exact ⟨⟨rfl, h.construction, h.inputFilters, h.outputFilters⟩, h.engine, h.ignoresSliders⟩
  | addInputFilter f =>
    exact ⟨⟨h.vars, h.construction, congrArg (·.add f) h.inputFilters, h.outputFilters⟩,
      h.engine, h.ignoresSliders⟩
  | removeInputFilter handle =>
    exact ⟨⟨h.vars, h.construction, congrArg (·.remove handle) h.inputFilters,
      h.outputFilters⟩, h.engine, h.ignoresSliders⟩
  | addOutputFilter f =>
    exact ⟨⟨h.vars, h.construction, h.inputFilters, congrArg (·.add f) h.outputFilters⟩,
      h.engine, h.ignoresSliders⟩
  | removeOutputFilter handle =>
    exact ⟨⟨h.vars, h.construction, h.inputFilters,
      congrArg (·.remove handle) h.outputFilters⟩, h.engine, h.ignoresSliders⟩
  | addCommandFilter f =>
    refine interchangeable_withEngine h.toSameGround
      ⟨h.engine.processors_eq, ?_, h.engine.arguments⟩ h.ignoresSliders
    simp only [Engine.addCommandFilter, Filter.Chain.filters_add]
    exact h.engine.commands.append_right [f]
  | addArgumentFilter f =>
    refine interchangeable_withEngine h.toSameGround
      ⟨h.engine.processors_eq, h.engine.commands, ?_⟩ h.ignoresSliders
    simp only [Engine.addArgumentFilter, Filter.Chain.filters_add]
    exact h.engine.arguments.append_right [f]
  | register name p =>
    exact interchangeable_withEngine h.toSameGround
      ⟨congrArg (·.insert name p) h.engine.processors_eq, h.engine.commands, h.engine.arguments⟩
      (h.ignoresSliders.register name hm)
  | removeCommandFilter handle => exact hm.elim
  | removeArgumentFilter handle => exact hm.elim

/-- **Any number of moves in both sessions,** by induction on the moves. -/
theorem Interchangeable.afterAll {s t : Session} (h : s.Interchangeable t) {moves : List Move}
    (hmoves : ∀ m ∈ moves, m.Commutes) : (s.afterAll moves).Interchangeable (t.afterAll moves) := by
  induction moves generalizing s t with
  | nil => exact h
  | cons m moves ih =>
    rw [List.forall_mem_cons] at hmoves
    exact ih (h.after hmoves.1) hmoves.2

/-! ### Profiles -/

theorem applyTo_restrict {p : Profile} {r : Profile.Restrictions} (h : p.resolve = .ok r)
    (s : Session) : ∃ handles log, p.applyTo s = .ok ((s.restrict p r).1, handles, log) := by
  unfold Profile.applyTo
  rw [h]
  exact ⟨_, _, rfl⟩

/-- **The filters of two profiles, attached in either order.** -/
theorem interchangeable_restrict {s : Session} (hs : s.engine.IgnoresSliders) (p q : Profile)
    (rp rq : Profile.Restrictions) :
    ((s.restrict p rp).1.restrict q rq).1.Interchangeable
      ((s.restrict q rq).1.restrict p rp).1 := by
  have hswap : ∀ {α : Type} (chain : Filter.Chain α) (fs gs : List α),
      ((chain.addAll fs).1.addAll gs).1.filters.Perm ((chain.addAll gs).1.addAll fs).1.filters := by
    intro α chain fs gs
    simp only [Filter.Chain.filters_addAll, List.append_assoc]
    exact List.perm_append_comm.append_left _
  exact ⟨⟨rfl, rfl, rfl, rfl⟩, ⟨rfl, hswap .., hswap ..⟩, hs⟩

end Session

/-! ### The main statement -/

/-- **Filters can be in any order and only restrict.** Filters on commands in another order make no
difference to a call at all; filters on arguments in another order make none to whether it succeeds
and to its result; and a filter more, wherever it is attached, makes no call succeed and changes no
result. So if two profiles apply to a session, each of them applies after the other, and if no
processor looks at sliders, the same is accepted with the same results whichever comes first, also
after any number of moves that commute. -/
theorem filters_in_any_order :
    (∀ e e' : Engine, e.processors = e'.processors →
      e.commandFilters.filters.Perm e'.commandFilters.filters →
      e.argumentFilters.filters = e'.argumentFilters.filters → e.call = e'.call) ∧
    (∀ e e' : Engine, e.Reordered e' → ∀ name arguments options figures,
      (e.call name arguments options).answer = .ok figures ↔
        (e'.call name arguments options).answer = .ok figures) ∧
    (∀ e e' : Engine, e.LooserThan e' → ∀ name arguments options,
      (∀ fault, (e.call name arguments options).answer = .error fault →
        ∃ fault', (e'.call name arguments options).answer = .error fault') ∧
      ∀ figures, (e'.call name arguments options).answer = .ok figures →
        e.call name arguments options = e'.call name arguments options) ∧
    ∀ (s sp sq : Session) (p q : Profile) (hp hq : List Filter.Handle) (lp lq : Log),
      s.engine.IgnoresSliders → p.applyTo s = .ok (sp, hp, lp) → q.applyTo s = .ok (sq, hq, lq) →
      ∃ spq sqp : Session, (∃ handles log, q.applyTo sp = .ok (spq, handles, log)) ∧
        (∃ handles log, p.applyTo sq = .ok (sqp, handles, log)) ∧
        ∀ moves : List Session.Move, (∀ m ∈ moves, m.Commutes) →
          let t := spq.afterAll moves
          let t' := sqp.afterAll moves
          t.construction = t'.construction ∧ (∀ text, t.SameResults t' text) ∧
            ∀ name arguments options figures, (t.call name arguments options).answer = .ok figures ↔
              (t'.call name arguments options).answer = .ok figures := by
  refine ⟨fun e e' => Engine.call_eq_of_perm, fun e e' h name arguments options figures => h.ok_iff,
    fun e e' h name arguments options => ⟨fun fault => h.error_of_error,
      fun figures => h.call_eq_of_ok⟩, ?_⟩
  intro s sp sq p q hp hq lp lq hs happlyp happlyq
  obtain ⟨rp, hrp, rfl, -⟩ := Profile.applyTo_ok happlyp
  obtain ⟨rq, hrq, rfl, -⟩ := Profile.applyTo_ok happlyq
  refine ⟨_, _, Session.applyTo_restrict hrq _, Session.applyTo_restrict hrp _, ?_⟩
  intro moves hmoves t t'
  have h : t.Interchangeable t' := (Session.interchangeable_restrict hs p q rp rq).afterAll hmoves
  exact ⟨h.construction, h.sameResults, fun _ _ _ _ => h.engine.ok_iff⟩

/-- An exam in either order with a gate, bounds before and after types, and two profiles: one allows
two commands only and the other bounds their arguments. -/
theorem filters_in_any_order_exam :
    let exam : CommandFilter := .only [.point, .gcd]
    let gate : CommandFilter := .all [.gate .algebra false, .cas false]
    let count : ArgumentFilter := .count 2 none
    let types : ArgumentFilter := .all [.types [.int], .test fun _ _ => .ok ()]
    let e := (Engine.initial.addCommandFilter exam).addCommandFilter gate
    let e' := (Engine.initial.addCommandFilter gate).addCommandFilter exam
    let f := (e.addArgumentFilter count).addArgumentFilter types
    let f' := (e'.addArgumentFilter types).addArgumentFilter count
    let arguments : List Value := [.number (.int 1), .number (.int 2)]
    let result : Except Fault (List Figure) := .ok [.point (.int 1) (.int 2) none]
    let p : Profile := { Profile.default with
      commands := { allowed := some ["Sum", "Line"], casAllowed := true, deniedCategories := [] }
      sliders := true }
    let q : Profile := { Profile.default with
      commands := { allowed := none, casAllowed := false, deniedCategories := [" Text "] }
      arguments := { least := some 2, greatest := none } }
    let moves : List Session.Move :=
      [.runStrict "A = Sum(1, 2)" false, .addCommandFilter (.only [.sum]), .remove "B"]
    (e.call "GCD" = e'.call "GCD" ∧
      (e.call "GCD" arguments .standard).answer = .error (.commandNotAllowed "GCD")) ∧
    (f.call "Point" arguments .standard).answer = result ∧
    (f'.call "Point" arguments .standard).answer = result ∧
    e.call "Point" arguments .standard = f.call "Point" arguments .standard ∧
    (∃ fault, (f.call "GCD" arguments .standard).answer = .error fault) ∧
    ∃ sp sq spq sqp : Session, (∃ handles log, p.applyTo .initial = .ok (sp, handles, log)) ∧
      (∃ handles log, q.applyTo .initial = .ok (sq, handles, log)) ∧
      (∃ handles log, q.applyTo sp = .ok (spq, handles, log)) ∧
      (∃ handles log, p.applyTo sq = .ok (sqp, handles, log)) ∧
      (spq.afterAll moves).construction = (sqp.afterAll moves).construction ∧
      (spq.afterAll moves).SameResults (sqp.afterAll moves) "C = Line((0, 0), x)" := by
  intro exam gate count types e e' f f' arguments result p q moves
  obtain ⟨hperm, hreordered, hlooser, hprofiles⟩ := filters_in_any_order
  have hcommands : e.commandFilters.filters.Perm e'.commandFilters.filters := .swap _ _ _
  have harguments : f.argumentFilters.filters.Perm f'.argumentFilters.filters := .swap _ _ _
  have hmore := hlooser e f ⟨rfl, fun _ h => h, fun _ h => absurd h List.not_mem_nil⟩
  have hrefused : (e.call "GCD" arguments .standard).answer = .error (.commandNotAllowed "GCD") :=
    rfl
  have hresult : (f.call "Point" arguments .standard).answer = result := rfl
  have hmoves : ∀ m ∈ moves, m.Commutes := by
    simp only [moves, List.forall_mem_cons, List.not_mem_nil, false_imp_iff, implies_true, and_true]
    exact ⟨trivial, trivial, trivial⟩
  obtain ⟨spq, sqp, hpq, hqp, hlater⟩ := hprofiles .initial _ _ p q _ _ _ _
    Engine.ignoresSliders_initial rfl rfl
  obtain ⟨hconstruction, hresults, -⟩ := hlater moves hmoves
  exact ⟨⟨congrFun (hperm e e' rfl hcommands rfl) "GCD", hrefused⟩, hresult,
    (hreordered f f' ⟨rfl, hcommands, harguments⟩ "Point" arguments .standard _).mp hresult,
    (hmore "Point" arguments .standard).2 _ hresult, (hmore "GCD" arguments .standard).1 _ hrefused,
    _, _, spq, sqp, ⟨_, _, rfl⟩, ⟨_, _, rfl⟩, hpq, hqp, hconstruction, hresults _⟩

end GeoScript
