import GeoScript.Proofs.Reading.Labelled
import GeoScript.Proofs.Session.Commit

/-! # Labels in front of a text

A text with a label in front is evaluated as the text is, and the label is bound after all labels
that the text has itself. The reader has two places for a label, on a call and in an assignment, but
nothing that an evaluation answers or leaves depends on which of them it is.

* `answer_evaluateText_label`, `commit_label`: one label more, in the answer and in what is left.
* `Session.Labels`: the reply to a text with labels in front, against the reply to the text.
* `labels_of_label`, `Labels.trans`: one label, and one after the others.
* `labelling_is_compositional`: the main statement, for chains of any length. -/

namespace GeoScript

/-- A text with some labels in front of it, each followed by an equals sign. -/
def labelledText (labels : List String) (text : String) : String :=
  labels.foldr (fun l t => l ++ " = " ++ t) text

/-! ### One label more -/

theorem answer_record_congr {c d : Construction} (h : c.suppressed = d.suppressed) (label : String)
    (figures : List Figure) (options : Options) :
    (record label figures options c).answer = (record label figures options d).answer := by
  unfold record Construction.bind?
  rw [h]
  split
  · cases Construction.refusal? label figures <;> rfl
  · rfl

theorem suppressed_bindLabels {e : Expr} (he : Syntax.Shaped e) (figures : List Figure)
    (options : Options) (c : Construction) :
    (bindLabels e figures options c).state.suppressed = c.suppressed := by
  rcases bindLabels_cases he figures options c with ⟨-, hs⟩ | ⟨-, -, hs⟩
  · rw [hs, Construction.commit]
    split
    · exact Construction.suppressed_bindAll ..
    · rfl
  · rw [hs]

/-- The label in front is bound after the labels of the expression. -/
theorem commit_label (c : Construction) (options : Options) (name : String) (e : Expr)
    (figures : List Figure) :
    c.commit options (Syntax.label name e) figures =
      if options.labels && !c.suppressed then (c.commit options e figures).bind name figures
      else c := by
  unfold Construction.commit
  split
  · rw [Syntax.labelChain_label, Construction.bindAll_append]
    rfl
  · rfl

namespace Session

section Label

variable {s : Session} (hfilters : s.inputFilters.filters = []) {name text : String}
  (hname : Syntax.isIdentifier name.toList = true) (htext : Text.isEmptyText text = false)

include hfilters hname htext

/-- **A text with a label in front has the answer of the text,** unless the label cannot be bound to
it. -/
theorem answer_evaluateText_label {options : Options} (hr : options.redefinition = true)
    (c : Construction) :
    (s.evaluateText (name ++ " = " ++ text) options c).answer =
      (s.evaluateText text options c).answer.bind fun figures =>
        (record name figures options c).answer.map fun _ => figures := by
  have hread : s.workspace.read (name ++ " = " ++ text) =
      (s.workspace.read text).map (Syntax.label name) := Expr.read_label_eq hname htext s.vars
  have hadmits : ∀ e, s.admits e = true := by
    intro e
    rw [admits, hfilters, List.all_nil]
  rw [answer_evaluateText s _ c hr, answer_evaluateText s text c hr,
    Text.isEmptyText_label_eq hname htext, htext, hread]
  simp only [Bool.false_eq_true, ↓reduceIte]
  cases hcase : s.workspace.read text with
  | error fault => rfl
  | ok e =>
    have hquiet := fun e =>
      (evaluate_quiet c (Options.labels_withLabels options false) hr s.engine e).2
    have hroot : (GeoScript.evaluate s.engine (options.withLabels false) (Syntax.label name e)
        c).answer = (GeoScript.evaluate s.engine (options.withLabels false) e c).answer := by
      rw [hquiet, hquiet e, Expr.root_label]
    have hrecord : ∀ figures,
        (record name figures options (bindLabels e figures options c).state).answer =
          (record name figures options c).answer := fun figures =>
      answer_record_congr (suppressed_bindLabels (Expr.shaped_of_read hcase) figures options c) ..
    simp only [Except.map, Except.bind, hadmits, ↓reduceIte, hroot]
    cases (GeoScript.evaluate s.engine (options.withLabels false) e c).answer with
    | error fault => rfl
    | ok figures =>
      dsimp only
      cases s.releases figures with
      | false => rfl
      | true =>
        simp only [↓reduceIte, bindLabels_label, Action.answer_bind, hrecord]
        cases (bindLabels e figures options c).answer <;> rfl

theorem state_evaluateText_label {options : Options} (hr : options.redefinition = true)
    {c : Construction} {figures : List Figure}
    (h : (s.evaluateText text options c).answer = .ok figures)
    (hrecord : (record name figures options c).answer = .ok ()) :
    (s.evaluateText (name ++ " = " ++ text) options c).state =
      if options.labels && !c.suppressed then
        (s.evaluateText text options c).state.bind name figures
      else c := by
  obtain ⟨e, hpasses, hstate⟩ := passes_of_ok hr h
  have hread : s.workspace.read (name ++ " = " ++ text) = .ok (Syntax.label name e) := by
    have hlabel := Expr.read_label_eq hname htext s.vars
    rw [show Expr.read s.vars text = .ok e from hpasses.read] at hlabel
    exact hlabel
  rw [state_evaluateText s _ c hr, answer_evaluateText_label hfilters hname htext hr, h]
  simp only [Except.bind, hrecord, Except.map, hread]
  rw [hstate, commit_label]

end Label

/-! ### Replies -/

/-- A reply to a text with labels in front, against the reply to the text: it is the same fault; or
it is the same result, to which the labels are bound in the given order after whatever the text
binds, unless bindings are suppressed; or, where there are no figures to bind, one of the labels is
refused. Nothing is changed by what fails. -/
structure Labels (s : Session) (labels : List String)
    (plain labelled : Reply (Except Fault (List Figure))) : Prop where
  failed : ∀ fault, plain.answer = .error fault →
    labelled.answer = .error fault ∧ labelled.session = s
  bound : ∀ figures, plain.answer = .ok figures → figures ≠ [] →
    labelled.answer = .ok figures ∧ labelled.session =
      if s.construction.suppressed then s
      else plain.session.withConstruction (plain.session.construction.bindAll labels figures)
  refused : plain.answer = .ok [] → s.construction.suppressed = false →
    (∃ l ∈ labels, labelled.answer = .error (.invalidInput (.emptyResult l))) ∧
      labelled.session = s

theorem Labels.trans {s : Session} {labels : List String} {label : String}
    {plain inner outer : Reply (Except Fault (List Figure))} (h : s.Labels labels plain inner)
    (h' : s.Labels [label] inner outer) : s.Labels (labels ++ [label]) plain outer := by
  refine ⟨fun fault hfault => h'.failed fault (h.failed fault hfault).1,
    fun figures hfigures hne => ?_, fun hnothing hs => ?_⟩
  · obtain ⟨hinner, hsession⟩ := h.bound figures hfigures hne
    obtain ⟨houter, hsession'⟩ := h'.bound figures hinner hne
    refine ⟨houter, ?_⟩
    rw [hsession', hsession]
    split
    · rfl
    · rw [Construction.bindAll_append]
      rfl
  · obtain ⟨⟨l, hl, hinner⟩, -⟩ := h.refused hnothing hs
    obtain ⟨houter, hsession⟩ := h'.failed _ hinner
    exact ⟨⟨l, List.mem_append_left _ hl, houter⟩, hsession⟩

theorem isEmptyText_labelledText {labels : List String}
    (hlabels : ∀ l ∈ labels, Syntax.isIdentifier l.toList = true) {text : String}
    (htext : Text.isEmptyText text = false) :
    Text.isEmptyText (labelledText labels text) = false := by
  induction labels with
  | nil => exact htext
  | cons l ls ih =>
    rw [List.forall_mem_cons] at hlabels
    exact Text.isEmptyText_label_eq hlabels.1 (ih hlabels.2)

section Replies

variable {s : Session} (hfilters : s.inputFilters.filters = []) (sliders : Bool)

include hfilters

theorem labels_of_label {name text : String} (hname : Syntax.isIdentifier name.toList = true)
    (htext : Text.isEmptyText text = false) :
    s.Labels [name] (s.runStrict text sliders)
      (s.runStrict (name ++ " = " ++ text) sliders) := by
  have hr := Options.redefinition_run sliders
  have hanswer : (s.runStrict (name ++ " = " ++ text) sliders).answer =
      (s.runStrict text sliders).answer.bind fun figures =>
        (record name figures ((Options.of true true).withSliders sliders)
          s.construction).answer.map fun _ => figures :=
    answer_evaluateText_label hfilters hname htext hr s.construction
  refine ⟨fun fault hfault => ?_, fun figures hfigures hne => ?_, fun hnothing hs => ?_⟩
  · rw [hfault] at hanswer
    exact ⟨hanswer, session_runStrict_of_error s _ sliders hanswer⟩
  · have hrecord : (record name figures ((Options.of true true).withSliders sliders)
        s.construction).answer = .ok () := by
      cases hs : s.construction.suppressed with
      | true => exact (record_quiet (by rw [hs]; rfl)).1
      | false =>
        exact (record_figures (by rw [hs]; rfl) (Syntax.isEmptyText_of_isIdentifier hname) hne).1
    rw [hfigures] at hanswer
    simp only [Except.bind, hrecord, Except.map] at hanswer
    refine ⟨hanswer, ?_⟩
    have hstate := state_evaluateText_label hfilters hname htext hr hfigures hrecord
    rw [runStrict, session_perform, hstate]
    cases s.construction.suppressed <;> rfl
  · have hwanted : (((Options.of true true).withSliders sliders).labels &&
        !s.construction.suppressed) = true := by
      rw [hs]
      rfl
    have hrecord := (record_nothing hwanted (Syntax.isEmptyText_of_isIdentifier hname)).1
    rw [hnothing] at hanswer
    simp only [Except.bind, hrecord, Except.map] at hanswer
    exact ⟨⟨name, List.mem_singleton_self name, hanswer⟩,
      session_runStrict_of_error s _ sliders hanswer⟩

theorem labels_of_labelledText {labels : List String} (hne : labels ≠ [])
    (hlabels : ∀ l ∈ labels, Syntax.isIdentifier l.toList = true) {text : String}
    (htext : Text.isEmptyText text = false) :
    s.Labels labels.reverse (s.runStrict text sliders)
      (s.runStrict (labelledText labels text) sliders) := by
  induction labels with
  | nil => exact absurd rfl hne
  | cons l ls ih =>
    rw [List.forall_mem_cons] at hlabels
    by_cases hls : ls = []
    · subst hls
      exact labels_of_label hfilters sliders hlabels.1 htext
    · rw [List.reverse_cons]
      exact (ih hls hlabels.2).trans (labels_of_label hfilters sliders hlabels.1
        (isEmptyText_labelledText hlabels.2 htext))

end Replies

/-! ### The main statement -/

/-- **Labelling is compositional.** In a session without input filters, a text with a label in front
fares as the text does, and then the label is bound to its result. So a chain of labels, of any
length, is bound from the inside to the outside to the result of the text after it. -/
theorem labelling_is_compositional {s : Session} (hfilters : s.inputFilters.filters = [])
    (sliders : Bool) {text : String} (htext : Text.isEmptyText text = false) :
    (∀ label, Syntax.isIdentifier label.toList = true →
      s.Labels [label] (s.runStrict text sliders)
        (s.runStrict (label ++ " = " ++ text) sliders)) ∧
    ∀ labels, labels ≠ [] → (∀ l ∈ labels, Syntax.isIdentifier l.toList = true) →
      s.Labels labels.reverse (s.runStrict text sliders)
        (s.runStrict (labelledText labels text) sliders) :=
  ⟨fun _ hlabel => labels_of_label hfilters sliders hlabel htext,
    fun _ hne hlabels => labels_of_labelledText hfilters sliders hne hlabels htext⟩

/-- Two labels in front of a call that has one itself. -/
theorem labelling_is_compositional_chain :
    let text := " B = Sum(1, 2)"
    let labelled := initial.runStrict (labelledText ["A", "B_2"] text) true
    initial.inputFilters.filters = [] ∧ Text.isEmptyText text = false ∧
      labelled.answer = .ok [.number (.int 3)] ∧
      labelled.session.construction.labels = ["B", "B_2", "A"] := by
  intro text labelled
  have hread : initial.workspace.read text = .ok
      ((Expr.command "Sum" [.number (.int 1), .number (.int 2)]).withLabel "B") := by cbv
  have htext : Text.isEmptyText text = false := isEmptyText_of_read hread
  have hplain : (initial.runStrict text true).answer = .ok [.number (.int 3)] := by
    refine (answer_evaluateText_of_read (Options.redefinition_run true) hread _).trans ?_
    cbv
  have hfilters : initial.inputFilters.filters = [] := rfl
  have hlabels := (labelling_is_compositional hfilters true htext).2 ["A", "B_2"] (by decide)
    (by decide)
  obtain ⟨hanswer, hsession⟩ := hlabels.bound _ hplain (by decide)
  obtain ⟨e, hread', hcommitted⟩ := committed_runStrict initial text true hplain
  cases hread.symm.trans hread'
  refine ⟨hfilters, htext, hanswer, ?_⟩
  rw [hsession, hcommitted.session_eq]
  rfl

end Session

end GeoScript
