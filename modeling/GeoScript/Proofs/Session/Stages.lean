import GeoScript.Proofs.Labels.Binding
import GeoScript.Proofs.Labels.Root
import GeoScript.Session.Run

/-! # The stages of an evaluation

A text is evaluated to figures if it passes every stage (`Session.Passes`): it is not blank, it is
read, the input filters admit it, its root has an answer, the output filters release that, and its
labels can be bound. Otherwise the evaluation ends by a fault. Only the last stage writes, and what
it writes is known beforehand.

* `read_congr`, `admits_congr`, `releases_congr`: what the first stages look at.
* `evaluateText_cases`: all that an evaluation can do.
* `answer_evaluateText`, `answer_redefinition`: the answers, stage by stage;
  `answer_evaluateText_of_read` is for a text that is read.
* `state_evaluateText`, `state_redefinition`: what is left, by the answer. -/

namespace GeoScript

/-! ### What binding leaves -/

/-- The construction after the labels of an expression are bound, if labels are wanted. -/
def Construction.commit (c : Construction) (options : Options) (e : Expr) (figures : List Figure) :
    Construction :=
  if options.labels && !c.suppressed then c.bindAll e.labelChain figures else c

theorem Construction.commit_labelless {c : Construction} {options : Options} {e : Expr}
    {figures : List Figure} (h : options.labels = false) : c.commit options e figures = c := by
  simp [commit, h]

/-- The labels of an expression that was read are bound all together, or none of them is. -/
theorem bindLabels_cases {e : Expr} (he : Syntax.Shaped e) (figures : List Figure)
    (options : Options) (c : Construction) :
    ((bindLabels e figures options c).answer = .ok () ∧
        (bindLabels e figures options c).state = c.commit options e figures) ∨
      ∃ fault, (bindLabels e figures options c).answer = .error fault ∧
        (bindLabels e figures options c).state = c := by
  unfold Construction.commit
  cases hb : options.labels && !c.suppressed with
  | false => exact .inl (bindLabels_quiet he hb)
  | true =>
    cases figures with
    | cons f fs => exact .inl (bindLabels_figures he hb (List.cons_ne_nil f fs))
    | nil =>
      obtain ⟨hs, ha⟩ := bindLabels_nothing he hb
      cases hchain : e.labelChain with
      | nil =>
        rw [hchain] at ha
        exact .inl ⟨ha, hs⟩
      | cons l ls =>
        rw [hchain] at ha
        exact .inr ⟨_, ha, hs⟩

/-! ### The options of an evaluation -/

theorem Options.labels_withLabels (options : Options) (labels : Bool) :
    (options.withLabels labels).labels = labels := rfl

theorem Options.redefinition_run (sliders : Bool) :
    ((Options.of true true).withSliders sliders).redefinition = true := rfl

theorem Options.redefinition_evaluate : (Options.of false true).redefinition = true := rfl

/-! ### Evaluating a text -/

namespace Session

section SameGuards

variable {s t : Session}

theorem read_congr (h : s.vars = t.vars) (text : String) :
    s.workspace.read text = t.workspace.read text :=
  congrArg (Expr.read · text) h

theorem admits_congr (h : s.inputFilters = t.inputFilters) : s.admits = t.admits := by
  unfold admits
  rw [h]

theorem releases_congr (h : s.outputFilters = t.outputFilters) : s.releases = t.releases := by
  unfold releases
  rw [h]

end SameGuards

/-- A text passes every stage of an evaluation, as the expression `e` with the result `figures`. -/
structure Passes (s : Session) (text : String) (options : Options) (c : Construction) (e : Expr)
    (figures : List Figure) : Prop where
  notBlank : Text.isEmptyText text = false
  read : s.workspace.read text = .ok e
  admitted : s.admits e = true
  computed : (GeoScript.evaluate s.engine (options.withLabels false) e c).answer = .ok figures
  released : s.releases figures = true
  bound : (bindLabels e figures options c).answer = .ok ()

section EvaluateText

variable {s : Session} {text : String} {options : Options} {c : Construction}

theorem isEmptyText_of_read {e : Expr} (h : s.workspace.read text = .ok e) :
    Text.isEmptyText text = false := by
  unfold Workspace.read Expr.read at h
  cases hempty : Text.isEmptyText text with
  | false => rfl
  | true =>
    rw [Text.isEmptyText] at hempty
    rw [Syntax.readTrimmed_eq, if_pos hempty] at h
    cases h

theorem answer_readText (s : Session) (text : String) :
    (s.readText text).answer =
      if Text.isEmptyText text then .error (.invalidInput .emptyCommand)
      else s.workspace.read text := by
  unfold readText
  split
  · rfl
  · cases s.workspace.read text <;> rfl

/-- **All that an evaluation can do:** pass every stage and commit, or fail and change nothing. -/
theorem evaluateText_cases (s : Session) (text : String) (c : Construction)
    (hr : options.redefinition = true) :
    (∃ e figures, s.Passes text options c e figures ∧
        (s.evaluateText text options c).answer = .ok figures ∧
        (s.evaluateText text options c).state = c.commit options e figures) ∨
      ∃ fault, (s.evaluateText text options c).answer = .error fault ∧
        (s.evaluateText text options c).state = c := by
  unfold evaluateText
  simp only [Action.answer_bind, Action.state_bind, Action.ofTraced_apply, answer_readText]
  cases hblank : Text.isEmptyText text with
  | true => exact .inr ⟨_, rfl, rfl⟩
  | false =>
    cases hread : s.workspace.read text with
    | error fault => exact .inr ⟨fault, rfl, rfl⟩
    | ok e =>
      simp only [Bool.false_eq_true, ↓reduceIte, Except.bind]
      cases hadmits : s.admits e with
      | false => exact .inr ⟨_, rfl, rfl⟩
      | true =>
        have hstate :=
          (evaluate_quiet c (Options.labels_withLabels options false) hr s.engine e).1
        simp only [↓reduceIte, Action.answer_bind, Action.state_bind, hstate]
        cases hcomputed : (GeoScript.evaluate s.engine (options.withLabels false) e c).answer with
        | error fault => exact .inr ⟨fault, rfl, rfl⟩
        | ok figures =>
          simp only [Except.bind]
          cases hreleases : s.releases figures with
          | false => exact .inr ⟨_, rfl, rfl⟩
          | true =>
            simp only [↓reduceIte, Action.answer_bind, Action.state_bind]
            rcases bindLabels_cases (Expr.shaped_of_read hread) figures options c with
              ⟨ha, hs⟩ | ⟨fault, ha, hs⟩
            · rw [ha, hs]
              exact .inl ⟨e, figures, ⟨hblank, hread, hadmits, hcomputed, hreleases, ha⟩, rfl, rfl⟩
            · rw [ha, hs]
              exact .inr ⟨fault, rfl, rfl⟩

/-- **The answer of an evaluation, stage by stage.** -/
theorem answer_evaluateText (s : Session) (text : String) (c : Construction)
    (hr : options.redefinition = true) :
    (s.evaluateText text options c).answer =
      if Text.isEmptyText text then .error (.invalidInput .emptyCommand)
      else (s.workspace.read text).bind fun e =>
        if s.admits e then
          (GeoScript.evaluate s.engine (options.withLabels false) e c).answer.bind fun figures =>
            if s.releases figures then
              (bindLabels e figures options c).answer.map fun _ => figures
            else .error (.invalidInput .resultRefused)
        else .error (.invalidInput .expressionRefused) := by
  unfold evaluateText
  simp only [Action.answer_bind, Action.ofTraced_apply, answer_readText]
  cases Text.isEmptyText text with
  | true => rfl
  | false =>
    cases s.workspace.read text with
    | error fault => rfl
    | ok e =>
      simp only [Bool.false_eq_true, ↓reduceIte, Except.bind]
      cases s.admits e with
      | false => rfl
      | true =>
        have hstate :=
          (evaluate_quiet c (Options.labels_withLabels options false) hr s.engine e).1
        simp only [↓reduceIte, Action.answer_bind, hstate]
        cases (GeoScript.evaluate s.engine (options.withLabels false) e c).answer with
        | error fault => rfl
        | ok figures =>
          simp only [Except.bind]
          cases s.releases figures with
          | false => rfl
          | true =>
            simp only [↓reduceIte, Action.answer_bind]
            cases (bindLabels e figures options c).answer <;> rfl

theorem answer_evaluateText_of_read (hr : options.redefinition = true) {e : Expr}
    (h : s.workspace.read text = .ok e) (c : Construction) :
    (s.evaluateText text options c).answer =
      if s.admits e then
        (GeoScript.evaluate s.engine (options.withLabels false) e c).answer.bind fun figures =>
          if s.releases figures then
            (bindLabels e figures options c).answer.map fun _ => figures
          else .error (.invalidInput .resultRefused)
      else .error (.invalidInput .expressionRefused) := by
  rw [answer_evaluateText s text c hr, isEmptyText_of_read h, h]
  rfl

theorem passes_of_ok (hr : options.redefinition = true) {figures : List Figure}
    (h : (s.evaluateText text options c).answer = .ok figures) :
    ∃ e, s.Passes text options c e figures ∧
      (s.evaluateText text options c).state = c.commit options e figures := by
  rcases evaluateText_cases s text c hr with ⟨e, figures', hp, ha, hs⟩ | ⟨fault, ha, -⟩
  · cases ha.symm.trans h
    exact ⟨e, hp, hs⟩
  · cases ha.symm.trans h

theorem state_evaluateText_of_error (hr : options.redefinition = true) {fault : Fault}
    (h : (s.evaluateText text options c).answer = .error fault) :
    (s.evaluateText text options c).state = c := by
  rcases evaluateText_cases s text c hr with ⟨e, figures, -, ha, -⟩ | ⟨fault, -, hs⟩
  · cases ha.symm.trans h
  · exact hs

/-- What an evaluation leaves is known from its answer and from the expression. -/
theorem state_evaluateText (s : Session) (text : String) (c : Construction)
    (hr : options.redefinition = true) :
    (s.evaluateText text options c).state =
      match (s.evaluateText text options c).answer, s.workspace.read text with
      | .ok figures, .ok e => c.commit options e figures
      | _, _ => c := by
  rcases evaluateText_cases s text c hr with ⟨e, figures, hp, ha, hs⟩ | ⟨fault, ha, hs⟩
  · rw [hs, ha, hp.read]
  · rw [hs, ha]

theorem state_evaluateText_labelless (hr : options.redefinition = true)
    (hl : options.labels = false) : (s.evaluateText text options c).state = c := by
  rcases evaluateText_cases s text c hr with ⟨e, figures, -, -, hs⟩ | ⟨fault, -, hs⟩
  · rw [hs, Construction.commit_labelless hl]
  · exact hs

end EvaluateText

/-! ### Redefinition -/

section Redefinition

variable {s : Session} {label text : String} {wanted : Bool} {c : Construction}

/-- The options of the evaluation in a redefinition. -/
def redefinitionOptions : Options := (Options.of false true).withSliders true

theorem redefinition_redefinitionOptions : redefinitionOptions.redefinition = true := rfl

/-- **The answer of a redefinition, stage by stage.** -/
theorem answer_redefinition (s : Session) (label text : String) (wanted : Bool)
    (c : Construction) :
    (s.redefinition label text wanted c).answer =
      if s.construction.isFree label then .error (.undefinedVariable label)
      else if !wanted then .error (.nameUsed label)
      else (s.evaluateText text redefinitionOptions c).answer.bind fun figures =>
        (record label figures (redefinitionOptions.withLabels true) c).answer.map
          fun _ => figures := by
  unfold redefinition
  split
  · rfl
  · split
    · rfl
    · have hstate : (s.evaluateText text redefinitionOptions c).state = c :=
        state_evaluateText_labelless redefinition_redefinitionOptions rfl
      simp only [Action.answer_bind]
      rw [show (Options.of false true).withSliders true = redefinitionOptions from rfl, hstate]
      cases (s.evaluateText text redefinitionOptions c).answer with
      | error fault => rfl
      | ok figures =>
        simp only [Except.bind]
        cases (record label figures (redefinitionOptions.withLabels true) c).answer <;> rfl

/-- What a redefinition leaves: only the label is bound, and only if there is an answer. -/
theorem state_redefinition (s : Session) (label text : String) (wanted : Bool) (c : Construction) :
    (s.redefinition label text wanted c).state =
      match (s.redefinition label text wanted c).answer with
      | .error _ => c
      | .ok figures => (record label figures (redefinitionOptions.withLabels true) c).state := by
  rw [answer_redefinition]
  unfold redefinition
  split
  · rfl
  · split
    · rfl
    · have hstate : (s.evaluateText text redefinitionOptions c).state = c :=
        state_evaluateText_labelless redefinition_redefinitionOptions rfl
      simp only [Action.state_bind]
      rw [show (Options.of false true).withSliders true = redefinitionOptions from rfl, hstate]
      cases (s.evaluateText text redefinitionOptions c).answer with
      | error fault => rfl
      | ok figures =>
        simp only [Except.bind]
        cases hrec : (record label figures (redefinitionOptions.withLabels true) c).answer with
        | error fault => exact state_record_of_error hrec
        | ok u => rfl

theorem state_redefinition_of_error {fault : Fault}
    (h : (s.redefinition label text wanted c).answer = .error fault) :
    (s.redefinition label text wanted c).state = c := by
  rw [state_redefinition, h]

theorem redefinition_ok {figures : List Figure}
    (h : (s.redefinition label text wanted c).answer = .ok figures) :
    (s.evaluateText text redefinitionOptions c).answer = .ok figures ∧
      (record label figures (redefinitionOptions.withLabels true) c).answer = .ok () := by
  rw [answer_redefinition] at h
  split at h
  · cases h
  · split at h
    · cases h
    · cases hev : (s.evaluateText text redefinitionOptions c).answer with
      | error fault => rw [hev] at h; cases h
      | ok figures' =>
        rw [hev] at h
        simp only [Except.bind] at h
        cases hrec : (record label figures' (redefinitionOptions.withLabels true) c).answer with
        | error fault => rw [hrec] at h; cases h
        | ok u =>
          rw [hrec] at h
          cases h
          exact ⟨rfl, hrec⟩

theorem isFree_of_redefinition_ok {figures : List Figure}
    (h : (s.redefinition label text wanted c).answer = .ok figures) :
    s.construction.isFree label = false := by
  rw [answer_redefinition] at h
  cases hfree : s.construction.isFree label with
  | false => rfl
  | true =>
    rw [hfree] at h
    cases h

theorem state_redefinition_of_ok {figures : List Figure}
    (h : (s.redefinition label text wanted c).answer = .ok figures) :
    (s.redefinition label text wanted c).state =
      if c.suppressed then c else c.bind label figures := by
  rw [state_redefinition, h]
  dsimp only
  rw [state_record_of_ok (redefinition_ok h).2, Options.labels_withLabels]
  cases c.suppressed <;> rfl

end Redefinition

end Session

end GeoScript
