import GeoScript.Proofs.Session.Stages

/-! # Commit or nothing

An evaluation of a text either fails, and then nothing of the session is changed and the callback
is not called, or it succeeds, and then every label of the expression is bound to the result.

* `Session.Committed`: a session with the labels of an expression bound to some figures.
* `runStrictWith_fst`: a callback changes nothing in the reply.
* `commit_or_nothing`: the main statement, for all four ways to evaluate a text. -/

namespace GeoScript.Session

/-- The session `after` is `s` with the labels of `e` bound to `figures`, the innermost first,
unless bindings are suppressed: the labels stand for the figures, all others for what they stood
for, bound labels keep their places, and the others follow in the order in which they were bound
first. -/
structure Committed (s : Session) (e : Expr) (figures : List Figure) (after : Session) : Prop where
  session_eq : after = s.withConstruction
    (if s.construction.suppressed then s.construction
      else s.construction.bindAll e.labelChain figures)
  get?_eq : s.construction.suppressed = false → ∀ l, after.construction.get? l =
    if l ∈ e.labelChain then some figures else s.construction.get? l
  labels_eq : s.construction.suppressed = false → after.construction.labels =
    s.construction.labels ++ (e.labelChain.filter s.construction.isFree).eraseDups
  suppressed_eq : after.construction.suppressed = s.construction.suppressed

theorem withConstruction_self (s : Session) : s.withConstruction s.construction = s := rfl

theorem session_perform {α : Type} (s : Session) (x : Action Construction α) :
    (s.perform x).session = s.withConstruction (x s.construction).state := rfl

theorem committed_commit (s : Session) {options : Options} (hl : options.labels = true) (e : Expr)
    (figures : List Figure) :
    s.Committed e figures (s.withConstruction (s.construction.commit options e figures)) := by
  have hcommit : s.construction.commit options e figures =
      if s.construction.suppressed then s.construction
      else s.construction.bindAll e.labelChain figures := by
    unfold Construction.commit
    rw [hl]
    cases s.construction.suppressed <;> rfl
  have hconstruction : ∀ c, (s.withConstruction c).construction = c := fun _ => rfl
  refine ⟨by rw [hcommit], fun hs l => ?_, fun hs => ?_, ?_⟩
  · rw [hconstruction, hcommit, hs]
    exact Construction.get?_bindAll ..
  · rw [hconstruction, hcommit, hs]
    exact Construction.labels_bindAll ..
  · rw [hconstruction, hcommit]
    split
    · rfl
    · exact Construction.suppressed_bindAll ..

/-! ### Strict runs -/

section Strict

variable {κ : Type} (s : Session) (text : String) (sliders : Bool)
  (callback : List Figure → κ → κ) (kept : κ)

/-- What the callback has kept after an evaluation: it is called once with a result, or not at
all. -/
theorem calling_apply (x : Action Construction (List Figure)) (c : Construction) :
    calling callback x (c, kept) =
      ⟨(x c).answer,
        ((x c).state,
          match (x c).answer with
          | .error _ => kept
          | .ok figures => callback figures kept),
        (x c).log⟩ := by
  unfold calling
  cases hx : (x c).answer with
  | error fault =>
    have hpart : (Action.onPart Prod.fst (fun p c => (c, p.2)) x (c, kept)).answer =
        .error fault := hx
    rw [Action.bind_of_error _ hpart]
    rfl
  | ok figures =>
    have hpart : (Action.onPart Prod.fst (fun p c => (c, p.2)) x (c, kept)).answer =
        .ok figures := hx
    rw [Action.bind_of_ok _ hpart]
    simp [Action.onPart, bind, Action.bind, Action.modify]

theorem runStrictWith_fst :
    (s.runStrictWith text sliders callback kept).1 = s.runStrict text sliders := by
  unfold runStrictWith runStrict perform
  simp only [calling_apply]

theorem runStrictWith_snd :
    (s.runStrictWith text sliders callback kept).2 =
      match (s.runStrict text sliders).answer with
      | .error _ => kept
      | .ok figures => callback figures kept := by
  unfold runStrictWith runStrict perform
  simp only [calling_apply]

theorem session_runStrict_of_error {fault : Fault}
    (h : (s.runStrict text sliders).answer = .error fault) :
    (s.runStrict text sliders).session = s := by
  have hstate := state_evaluateText_of_error (Options.redefinition_run sliders) h
  rw [runStrict, session_perform, hstate]
  exact withConstruction_self s

theorem committed_runStrict {figures : List Figure}
    (h : (s.runStrict text sliders).answer = .ok figures) :
    ∃ e, s.workspace.read text = .ok e ∧
      s.Committed e figures (s.runStrict text sliders).session := by
  obtain ⟨e, hp, hs⟩ := passes_of_ok (Options.redefinition_run sliders) h
  refine ⟨e, hp.read, ?_⟩
  rw [runStrict, session_perform, hs]
  exact s.committed_commit rfl e figures

end Strict

/-! ### Runs that write faults down -/

/-- A run and a strict run differ in what becomes of a fault. -/
theorem run_cases (s : Session) (stamp : Stamp) (text : String) :
    (∃ figures, (s.runStrict text s.sliders).answer = .ok figures ∧
        (s.run stamp text).answer = some figures ∧
        (s.run stamp text).session = (s.runStrict text s.sliders).session) ∨
      ∃ fault, (s.runStrict text s.sliders).answer = .error fault ∧
        (s.run stamp text).answer = none ∧
        (s.run stamp text).session =
          { s with
            faults := s.faults.add { fault.record with evalId := some stamp.evalId } text } := by
  unfold run
  have hanswer : ∀ op facts, (bracket op stamp facts (s.runStrict text s.sliders)).answer =
      (s.runStrict text s.sliders).answer := fun _ _ => rfl
  have hsession : ∀ op facts, (bracket op stamp facts (s.runStrict text s.sliders)).session =
      (s.runStrict text s.sliders).session := fun _ _ => rfl
  simp only [hanswer, hsession]
  cases h : (s.runStrict text s.sliders).answer with
  | ok figures => exact .inl ⟨figures, rfl, rfl, rfl⟩
  | error fault =>
    refine .inr ⟨fault, rfl, rfl, ?_⟩
    rw [session_runStrict_of_error s text s.sliders h]

theorem session_run_of_none {s : Session} {stamp : Stamp} {text : String}
    (h : (s.run stamp text).answer = none) :
    (s.run stamp text).session = { s with faults := (s.run stamp text).session.faults } := by
  rcases run_cases s stamp text with ⟨figures, -, ha, -⟩ | ⟨fault, -, -, hsession⟩
  · cases h.symm.trans ha
  · rw [hsession]

theorem committed_run {s : Session} {stamp : Stamp} {text : String} {figures : List Figure}
    (h : (s.run stamp text).answer = some figures) :
    ∃ e, s.workspace.read text = .ok e ∧ s.Committed e figures (s.run stamp text).session := by
  rcases run_cases s stamp text with ⟨figures', hstrict, ha, hsession⟩ | ⟨fault, -, ha, -⟩
  · cases h.symm.trans ha
    obtain ⟨e, hread, hcommitted⟩ := committed_runStrict s text s.sliders hstrict
    exact ⟨e, hread, hsession ▸ hcommitted⟩
  · cases h.symm.trans ha

/-! ### Evaluations without labels, and redefinitions -/

theorem session_evaluate (s : Session) (stamp : Stamp) (text : String) :
    (s.evaluate stamp text).session = s := by
  have hstate : (s.evaluateText text (Options.of false true) s.construction).state =
      s.construction := state_evaluateText_labelless Options.redefinition_evaluate rfl
  change (s.perform (s.evaluateText text (Options.of false true))).session = s
  rw [session_perform, hstate]
  exact withConstruction_self s

section Redefine

variable {s : Session} {stamp : Stamp} {label text : String} {wanted : Bool}

theorem session_redefine_of_error {fault : Fault}
    (h : (s.redefine stamp label text wanted).answer = .error fault) :
    (s.redefine stamp label text wanted).session = s := by
  change (s.perform (s.redefinition label text wanted)).session = s
  rw [session_perform, state_redefinition_of_error h]
  exact withConstruction_self s

theorem session_redefine_of_ok {figures : List Figure}
    (h : (s.redefine stamp label text wanted).answer = .ok figures) :
    (s.redefine stamp label text wanted).session = s.withConstruction
      (if s.construction.suppressed then s.construction else s.construction.bind label figures) := by
  change (s.perform (s.redefinition label text wanted)).session = _
  rw [session_perform, state_redefinition_of_ok h]

end Redefine

/-! ### The main statement -/

/-- **Commit or nothing.** If an evaluation fails, at whatever stage, the session is as it was, but
for the fault that a run writes down, and the callback was not called. If a run succeeds, strict or
not, every label of the expression is bound to the result, and the callback got the result, once. An
evaluation without labels changes nothing, and a redefinition binds its label only. -/
theorem commit_or_nothing {κ : Type} (s : Session) (stamp : Stamp) (label text : String)
    (sliders wanted : Bool) (callback : List Figure → κ → κ) (kept : κ) :
    let strict := s.runStrictWith text sliders callback kept
    let run := s.run stamp text
    let evaluated := s.evaluate stamp text
    let redefined := s.redefine stamp label text wanted
    ((∀ fault, strict.1.answer = .error fault → strict.1.session = s ∧ strict.2 = kept) ∧
      (run.answer = none → run.session = { s with faults := run.session.faults }) ∧
      evaluated.session = s ∧
      (∀ fault, redefined.answer = .error fault → redefined.session = s)) ∧
    (∀ figures, strict.1.answer = .ok figures →
        strict.2 = callback figures kept ∧
          ∃ e, s.workspace.read text = .ok e ∧ s.Committed e figures strict.1.session) ∧
      (∀ figures, run.answer = some figures →
        ∃ e, s.workspace.read text = .ok e ∧ s.Committed e figures run.session) ∧
      ∀ figures, redefined.answer = .ok figures → redefined.session = s.withConstruction
        (if s.construction.suppressed then s.construction
          else s.construction.bind label figures) := by
  intro strict run evaluated redefined
  have hfst : strict.1 = s.runStrict text sliders := runStrictWith_fst ..
  have hsnd := runStrictWith_snd s text sliders callback kept
  refine ⟨⟨fun fault h => ?_, session_run_of_none, session_evaluate s stamp text,
    fun fault => session_redefine_of_error⟩, fun figures h => ?_, fun figures => committed_run,
    fun figures => session_redefine_of_ok⟩
  · rw [hfst] at h ⊢
    refine ⟨session_runStrict_of_error s text sliders h, ?_⟩
    rw [h] at hsnd
    exact hsnd
  · rw [hfst] at h ⊢
    rw [h] at hsnd
    exact ⟨hsnd, committed_runStrict s text sliders h⟩

end GeoScript.Session
