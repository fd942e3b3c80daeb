import GeoScript.Proofs.Session.Labelling
import GeoScript.Proofs.Session.Moves

/-! # What histories leave behind

What comes of a text is ruled by the variables, the engine, the filters on input and output, and
whether bindings are suppressed. It does not depend on what is bound, though labels are checked and
bound on the way. To evaluate and validate texts, and to bind and remove labels by hand, changes
none of the rules; so whatever has been done of this kind, a text fares as it would have before.

* `Session.SameRules`: two sessions with the same rules.
* `answer_evaluateText_congr`: under the same rules a text has the same answer.
* `Move.KeepsRules`, `sameRules_after`: the moves that change no rule.
* `answers_ignore_history`: the main statement. -/

namespace GeoScript

theorem answer_bindLabels_congr {e : Expr} (he : Syntax.Shaped e) {c d : Construction}
    (h : c.suppressed = d.suppressed) (figures : List Figure) (options : Options) :
    (bindLabels e figures options c).answer = (bindLabels e figures options d).answer := by
  induction he with
  | unlabelled hu =>
    rw [bindLabels_unlabelled hu]
    rfl
  | @labelled name e hn he ih =>
    have hsuppressed : (bindLabels e figures options c).state.suppressed =
        (bindLabels e figures options d).state.suppressed := by
      rw [suppressed_bindLabels he, suppressed_bindLabels he, h]
    rw [bindLabels_label, Action.answer_bind, Action.answer_bind, ih,
      answer_record_congr hsuppressed]

namespace Session

/-! ### The rules of a session -/

/-- Two sessions that agree in everything on which the result of a text depends. -/
structure SameRules (s t : Session) : Prop where
  vars : t.vars = s.vars
  engine : t.engine = s.engine
  inputFilters : t.inputFilters = s.inputFilters
  outputFilters : t.outputFilters = s.outputFilters
  suppressed : t.construction.suppressed = s.construction.suppressed

theorem SameRules.refl (s : Session) : s.SameRules s := ⟨rfl, rfl, rfl, rfl, rfl⟩

theorem SameRules.trans {s t u : Session} (h : s.SameRules t) (h' : t.SameRules u) :
    s.SameRules u :=
  ⟨h'.vars.trans h.vars, h'.engine.trans h.engine, h'.inputFilters.trans h.inputFilters,
    h'.outputFilters.trans h.outputFilters, h'.suppressed.trans h.suppressed⟩

/-- Another construction changes no rule, unless it is suppressed and the first is not. -/
theorem sameRules_withConstruction {s : Session} {c : Construction}
    (h : c.suppressed = s.construction.suppressed) : s.SameRules (s.withConstruction c) :=
  ⟨rfl, rfl, rfl, rfl, h⟩

section Answers

variable {s t : Session} (h : s.SameRules t)

include h

/-- **Under the same rules a text has the same answer.** -/
theorem answer_evaluateText_congr {options : Options} (hr : options.redefinition = true)
    (text : String) :
    (t.evaluateText text options t.construction).answer =
      (s.evaluateText text options s.construction).answer := by
  rw [answer_evaluateText t text _ hr, answer_evaluateText s text _ hr, read_congr h.vars,
    admits_congr h.inputFilters, releases_congr h.outputFilters, h.engine]
  cases hcase : s.workspace.read text with
  | error fault => rfl
  | ok e =>
    have hcomputed := answer_evaluate_congr t.construction
      (Options.labels_withLabels options false) hr s.engine e s.construction
    simp only [Except.bind, hcomputed,
      answer_bindLabels_congr (Expr.shaped_of_read hcase) h.suppressed]

theorem answer_runStrict_congr (text : String) (sliders : Bool) :
    (t.runStrict text sliders).answer = (s.runStrict text sliders).answer :=
  answer_evaluateText_congr h (Options.redefinition_run sliders) text

end Answers

/-! ### Moves that change no rule -/

/-- A move that evaluates or validates a text, or binds or removes a label by hand. -/
def Move.KeepsRules : Move → Prop
  | .run .. | .runStrict .. | .evaluate .. | .redefine .. | .validate .. | .bind .. | .remove _ =>
    True
  | _ => False

instance : DecidablePred Move.KeepsRules := fun m =>
  match m with
  | .run .. | .runStrict .. | .evaluate .. | .redefine .. | .validate .. | .bind .. | .remove _ =>
    .isTrue trivial
  | .clear | .suppress _ | .setVariable .. | .clearVariables | .addInputFilter _
  | .removeInputFilter _ | .addOutputFilter _ | .removeOutputFilter _ | .addCommandFilter _
  | .removeCommandFilter _ | .addArgumentFilter _ | .removeArgumentFilter _ | .register .. =>
    .isFalse id

section Step

variable (s : Session)

theorem sameRules_runStrict (text : String) (sliders : Bool) :
    s.SameRules (s.runStrict text sliders).session := by
  cases h : (s.runStrict text sliders).answer with
  | error fault =>
    rw [session_runStrict_of_error s text sliders h]
    exact .refl s
  | ok figures =>
    obtain ⟨e, -, hcommitted⟩ := committed_runStrict s text sliders h
    exact sameRules_withConstruction hcommitted.suppressed_eq

theorem sameRules_redefine (stamp : Stamp) (label text : String) (wanted : Bool) :
    s.SameRules (s.redefine stamp label text wanted).session := by
  cases h : (s.redefine stamp label text wanted).answer with
  | error fault =>
    rw [session_redefine_of_error h]
    exact .refl s
  | ok figures =>
    rw [session_redefine_of_ok h]
    refine sameRules_withConstruction ?_
    split <;> rfl

theorem sameRules_of_bind? {label : String} {figures : List Figure} {bound : Session}
    (h : s.bind? label figures = .ok bound) : s.SameRules bound := by
  unfold bind? Construction.bind? at h
  cases hrefusal : Construction.refusal? label figures with
  | some problem =>
    rw [hrefusal] at h
    cases h
  | none =>
    rw [hrefusal] at h
    cases h
    exact sameRules_withConstruction rfl

theorem sameRules_after {m : Move} (hm : m.KeepsRules) : s.SameRules (s.after m) := by
  cases m with
  | run stamp text =>
    rcases run_cases s stamp text with ⟨figures, -, -, hsession⟩ | ⟨fault, -, -, hsession⟩
    · rw [after, hsession]
      exact sameRules_runStrict s text s.sliders
    · rw [after, hsession]
      exact ⟨rfl, rfl, rfl, rfl, rfl⟩
  | runStrict text sliders => exact sameRules_runStrict s text sliders
  | evaluate stamp text =>
    rw [after, session_evaluate]
    exact .refl s
  | redefine stamp label text wanted => exact sameRules_redefine s stamp label text wanted
  | validate stamp text => exact .refl s
  | bind label figures =>
    rw [after]
    split
    · next hbound => exact sameRules_of_bind? s hbound
    · exact .refl s
  | remove label => exact sameRules_withConstruction rfl
  | _ => exact hm.elim

end Step

/-! ### The main statement -/

/-- **Histories do not tell in the answers.** After any number of moves that change no rule, whether
they succeed or fail, every text has the answers that it has before them: the same result or the
same fault from a strict run and from an evaluation, and the same problems. -/
theorem answers_ignore_history (s : Session) {moves : List Move}
    (hmoves : ∀ m ∈ moves, m.KeepsRules) (text : String) :
    let t := s.afterAll moves
    (∀ sliders, (t.runStrict text sliders).answer = (s.runStrict text sliders).answer) ∧
    (∀ stamp stamp', (t.evaluate stamp' text).answer = (s.evaluate stamp text).answer) ∧
    ∀ stamp stamp', (t.validate stamp' text).answer = (s.validate stamp text).answer := by
  intro t
  have hrules : s.SameRules t :=
    afterAll_induction (fun hm h => h.trans (sameRules_after _ hm)) hmoves (.refl s)
  refine ⟨answer_runStrict_congr hrules text, fun _ _ => ?_, fun _ _ => ?_⟩
  · exact answer_evaluateText_congr hrules Options.redefinition_evaluate text
  · exact congrArg (fun vars => problemsOfText vars text) hrules.vars

/-- Labels are bound, redefined, refused and removed, and then a label of the text is bound by
hand. -/
theorem answers_ignore_history_bound :
    let stamp : Stamp := ⟨"algebra", ⟨"e1"⟩, 3⟩
    let moves : List Move := [.runStrict "A = B = Sum(1, 2)" false, .redefine stamp "B" "7" true,
      .run stamp "C = D", .bind "" [], .remove "A", .bind "A" [.number (.int 5)]]
    (∀ m ∈ moves, m.KeepsRules) ∧
      ((initial.afterAll moves).runStrict "A = Sum(3, 4)" true).answer =
        .ok [.number (.int 7)] := by
  intro stamp moves
  have hmoves : ∀ m ∈ moves, m.KeepsRules := by decide
  refine ⟨hmoves, ((answers_ignore_history initial hmoves "A = Sum(3, 4)").1 true).trans ?_⟩
  have hread : initial.workspace.read "A = Sum(3, 4)" = .ok
      ((Expr.command "Sum" [.number (.int 3), .number (.int 4)]).withLabel "A") := by cbv
  refine (answer_evaluateText_of_read (Options.redefinition_run true) hread _).trans ?_
  cbv

end Session

end GeoScript
