import GeoScript.Proofs.Evaluation.Reports
import GeoScript.Proofs.Session.Commit

/-! # The boundaries of a call

A call in a session reports its start before everything else and its end after everything that is
done for it, in every case: the stages in between can end early, but they answer with their fault to
the one place where the end is reported. So the start and the end are a pair for every call.

* `Log.boundaries`: the events that mark boundaries, of whatever operation.
* `Session.Bracketed`: a log with the start and the end of one operation around its events.
* `bracketed_append`: the replies of `Session.bracket` have such logs.
* `boundaries_bracket_calls`: the main statement, for all calls. -/

namespace GeoScript

/-- The events of a log that mark boundaries, of whatever operation. -/
def Log.boundaries (log : Log) : Log := log.filter fun v => ¬ v.IsNote

theorem Log.boundaries_append (log log' : Log) :
    (log ++ log').boundaries = log.boundaries ++ log'.boundaries :=
  List.filter_append ..

theorem Log.boundaries_cons {v : Event} (h : ¬ v.IsNote) (log : Log) :
    Log.boundaries (v :: log) = v :: log.boundaries :=
  List.filter_cons_of_pos (decide_eq_true h)

theorem Log.boundaries_eq_nil_iff {log : Log} : log.boundaries = [] ↔ ∀ v ∈ log, v.IsNote := by
  unfold Log.boundaries
  rw [List.filter_eq_nil_iff]
  simp only [decide_eq_true_eq, not_not]

namespace Session

/-- The log of a call: the start of its operation, what is reported below the boundaries, the end
of the operation, and at most notes after it. The end tells the number of figures of an answer, or
the kind and the code of a fault. -/
structure Bracketed (s : Session) (operation : String) (outcome : Except Fault (List Figure))
    (log : Log) (first : Event) (middle : Log) (last : Event) (rest : Log) : Prop where
  log_eq : log = first :: (middle ++ last :: rest)
  started : first.operation? = some operation ∧ first.boundary? = some "start"
  lower : ∀ v ∈ middle, s.engine.Lower v
  ended : last.operation? = some operation
  ended_iff : last.boundary? = some "end" ↔ ∃ figures, outcome = .ok figures
  failed_iff : last.boundary? = some "end_error" ↔ ∃ fault, outcome = .error fault
  length_eq : ∀ figures, outcome = .ok figures →
    last.field? "result_len" = some figures.length.repr
  kind_eq : ∀ fault, outcome = .error fault →
    last.field? "err_kind" = some fault.kind.name ∧ last.field? "err_code" = some fault.kind.code
  rest_notes : ∀ v ∈ rest, v.IsNote

/-- If the processors report notes only, the start and the end are the only boundaries. -/
theorem Bracketed.boundaries_eq {s : Session} {operation : String}
    {outcome : Except Fault (List Figure)} {log middle rest : Log} {first last : Event}
    (h : s.Bracketed operation outcome log first middle last rest) (hs : s.engine.ReportsNotes) :
    log.boundaries = [first, last] := by
  have hfirst : ¬ first.IsNote := fun hnote => nomatch hnote.1.symm.trans h.started.1
  have hlast : ¬ last.IsNote := fun hnote => nomatch hnote.1.symm.trans h.ended
  have hmiddle : middle.boundaries = [] :=
    Log.boundaries_eq_nil_iff.mpr fun v hv => hs.isNote (h.lower v hv)
  have hrest : rest.boundaries = [] := Log.boundaries_eq_nil_iff.mpr h.rest_notes
  rw [h.log_eq, Log.boundaries_cons hfirst, Log.boundaries_append, hmiddle, List.nil_append,
    Log.boundaries_cons hlast, hrest]

/-- **A reply between a start and an end,** and then some notes more. -/
theorem bracketed_append (s : Session) (operation : String) (stamp : Stamp)
    (facts : List (String × String)) {r : Reply (Except Fault (List Figure))}
    (hr : ∀ v ∈ r.log, s.engine.Lower v) {rest : Log} (hrest : ∀ v ∈ rest, v.IsNote) :
    ∃ first last, s.Bracketed operation r.answer
      ((bracket operation stamp facts r).log ++ rest) first r.log last rest := by
  obtain ⟨answer, session, log⟩ := r
  let id := ("eval_id", stamp.evalId.text)
  let first := Event.started stamp.component operation (id :: facts)
  have hlog : ∀ last, (first :: (log ++ [last])) ++ rest = first :: (log ++ last :: rest) := by
    intro last
    rw [List.cons_append, List.append_assoc, List.singleton_append]
  have hdiffer : some "end" ≠ some "end_error" := by decide
  cases answer with
  | ok figures =>
    let last := Event.ended stamp.component operation stamp.elapsed
      [id, ("result_len", figures.length.repr)]
    exact ⟨first, last,
      { log_eq := hlog last
        started := ⟨rfl, rfl⟩
        lower := hr
        ended := rfl
        ended_iff := ⟨fun _ => ⟨figures, rfl⟩, fun _ => rfl⟩
        failed_iff := ⟨fun h => absurd h hdiffer, fun ⟨_, h⟩ => nomatch h⟩
        length_eq := fun _ h => Except.ok.inj h ▸ rfl
        kind_eq := fun _ h => nomatch h
        rest_notes := hrest }⟩
  | error fault =>
    let last := Event.failed stamp.component operation stamp.elapsed fault.kind [id]
    exact ⟨first, last,
      { log_eq := hlog last
        started := ⟨rfl, rfl⟩
        lower := hr
        ended := rfl
        ended_iff := ⟨fun h => absurd h hdiffer.symm, fun ⟨_, h⟩ => nomatch h⟩
        failed_iff := ⟨fun _ => ⟨fault, rfl⟩, fun _ => rfl⟩
        length_eq := fun _ h => nomatch h
        kind_eq := fun _ h => Except.error.inj h ▸ ⟨rfl, rfl⟩
        rest_notes := hrest }⟩

theorem bracketed_bracket (s : Session) (operation : String) (stamp : Stamp)
    (facts : List (String × String)) {r : Reply (Except Fault (List Figure))}
    (hr : ∀ v ∈ r.log, s.engine.Lower v) :
    let log := (bracket operation stamp facts r).log
    ∃ first middle last, s.Bracketed operation r.answer log first middle last [] ∧
      (s.engine.ReportsNotes → log.boundaries = [first, last]) := by
  obtain ⟨first, last, h⟩ := s.bracketed_append operation stamp facts hr (List.forall_mem_nil _)
  rw [List.append_nil] at h
  exact ⟨first, r.log, last, h, h.boundaries_eq⟩

theorem lower_of_mem_runStrict (s : Session) (text : String) (sliders : Bool) :
    ∀ v ∈ (s.runStrict text sliders).log, s.engine.Lower v :=
  s.reports_evaluateText text _ s.construction

/-! ### Runs that write faults down -/

theorem isNote_of_mem_events (faults : FaultLog) (record : FaultRecord) (context : String) :
    ∀ v ∈ faults.events record context, v.IsNote := by
  unfold FaultLog.events
  split
  · exact List.forall_mem_nil _
  · exact List.forall_mem_singleton.mpr (Event.isNote_note _ _ rfl rfl)

/-- What a run reports after its end: the fault that it writes down, if there is one and the log of
faults is not silent. -/
def warnings (s : Session) (stamp : Stamp) (text : String) : Log :=
  match (s.runStrict text s.sliders).answer with
  | .ok _ => []
  | .error fault => s.faults.events { fault.record with evalId := some stamp.evalId } text

theorem log_run (s : Session) (stamp : Stamp) (text : String) :
    (s.run stamp text).log =
      (bracket "process_algebra_command" stamp [("input", text)]
        (s.runStrict text s.sliders)).log ++ s.warnings stamp text := by
  have hanswer : ∀ op facts, (bracket op stamp facts (s.runStrict text s.sliders)).answer =
      (s.runStrict text s.sliders).answer := fun _ _ => rfl
  unfold run warnings
  simp only [hanswer]
  cases (s.runStrict text s.sliders).answer with
  | ok figures => exact (List.append_nil _).symm
  | error fault => rfl

theorem answer_run (s : Session) (stamp : Stamp) (text : String) :
    (s.run stamp text).answer = (s.runStrict text s.sliders).answer.toOption := by
  rcases run_cases s stamp text with ⟨figures, hstrict, hanswer, -⟩ | ⟨fault, hstrict, hanswer, -⟩
  all_goals
    rw [hstrict, hanswer]
    rfl

theorem isNote_of_mem_warnings (s : Session) (stamp : Stamp) (text : String) :
    ∀ v ∈ s.warnings stamp text, v.IsNote := by
  unfold warnings
  split
  · exact List.forall_mem_nil _
  · exact isNote_of_mem_events _ _ _

/-- There is at most one warning, and there is one just if the run fails and the log of faults is
not silent. -/
theorem map_message_warnings (s : Session) (stamp : Stamp) (text : String) :
    (s.warnings stamp text).map (fun v => (v.level, v.field? "message")) =
      if (s.run stamp text).answer.isNone ∧ s.faults.silent = false then
        [(.warn, some "command failed")]
      else [] := by
  unfold warnings FaultLog.events
  rcases run_cases s stamp text with ⟨figures, hstrict, hanswer, -⟩ | ⟨fault, hstrict, hanswer, -⟩
  · simp only [hstrict, hanswer, Option.isNone_some, Bool.false_eq_true, false_and, if_false,
      List.map_nil]
  · simp only [hstrict, hanswer]
    cases s.faults.silent <;> rfl

/-! ### Validating -/

theorem isNote_of_mem_readingEvents (s : Session) (text : String) :
    ∀ v ∈ s.readingEvents text, v.IsNote := by
  unfold readingEvents
  split
  · exact List.forall_mem_nil _
  · exact isNote_of_mem_readingLog _

/-- **Validating** reports a start and an end and notes between them, whatever is wrong. -/
theorem validate_log (s : Session) (stamp : Stamp) (text : String) :
    let r := s.validate stamp text
    ∃ first middle last, r.log = first :: (middle ++ [last]) ∧ (∀ v ∈ middle, v.IsNote) ∧
      r.log.boundaries = [first, last] ∧
      (first.operation? = some "validate_expression" ∧ first.boundary? = some "start") ∧
      (last.operation? = some "validate_expression" ∧ last.boundary? = some "end") ∧
      last.field? "problems" = some r.answer.length.repr := by
  intro r
  let first := Event.started stamp.component "validate_expression" [("input", text)]
  let last := Event.ended stamp.component "validate_expression" stamp.elapsed
    [("problems", r.answer.length.repr)]
  have hfirst : ¬ first.IsNote := fun hnote => nomatch hnote.1
  have hlast : ¬ last.IsNote := fun hnote => nomatch hnote.1
  have hmiddle := s.isNote_of_mem_readingEvents text
  refine ⟨first, s.readingEvents text, last, rfl, hmiddle, ?_, ⟨rfl, rfl⟩, ⟨rfl, rfl⟩, rfl⟩
  change Log.boundaries (first :: (s.readingEvents text ++ [last])) = [first, last]
  rw [Log.boundaries_cons hfirst, Log.boundaries_append, Log.boundaries_eq_nil_iff.mpr hmiddle,
    List.nil_append, Log.boundaries_cons hlast]
  rfl

/-! ### The main statement -/

/-- **Boundaries bracket calls.** A run, an evaluation without labels and a redefinition report the
start of their own operation before everything else and its end after everything that is done for
it: an end with the number of figures if they succeed, an end with the kind and the code of the
fault if they fail. Only a run reports something more then, the fault that it writes down if the log
of faults is not silent. Validating always ends with the number of problems, and a strict run marks
no boundary. In between there are only notes and what processors report; so if processors report
notes only, the start and the end are the only boundaries. -/
theorem boundaries_bracket_calls {κ : Type} (s : Session) (stamp : Stamp) (label text : String)
    (sliders wanted : Bool) (callback : List Figure → κ → κ) (kept : κ) :
    let outcome := (s.runStrict text s.sliders).answer
    let run := s.run stamp text
    let evaluated := s.evaluate stamp text
    let redefined := s.redefine stamp label text wanted
    let validated := s.validate stamp text
    let strict := (s.runStrictWith text sliders callback kept).1
    (∃ first middle last rest, run.answer = outcome.toOption ∧
        s.Bracketed "process_algebra_command" outcome run.log first middle last rest ∧
        (s.engine.ReportsNotes → run.log.boundaries = [first, last]) ∧
        rest.map (fun v => (v.level, v.field? "message")) =
          if run.answer.isNone ∧ s.faults.silent = false then [(.warn, some "command failed")]
          else []) ∧
      (∃ first middle last,
        s.Bracketed "evaluate_expression" evaluated.answer evaluated.log first middle last [] ∧
        (s.engine.ReportsNotes → evaluated.log.boundaries = [first, last])) ∧
      (∃ first middle last,
        s.Bracketed "redefine_element" redefined.answer redefined.log first middle last [] ∧
        (s.engine.ReportsNotes → redefined.log.boundaries = [first, last])) ∧
      (∃ first middle last, validated.log = first :: (middle ++ [last]) ∧
        (∀ v ∈ middle, v.IsNote) ∧ validated.log.boundaries = [first, last] ∧
        (first.operation? = some "validate_expression" ∧ first.boundary? = some "start") ∧
        (last.operation? = some "validate_expression" ∧ last.boundary? = some "end") ∧
        last.field? "problems" = some validated.answer.length.repr) ∧
      (∀ v ∈ strict.log, s.engine.Lower v) ∧
        (s.engine.ReportsNotes → strict.log.boundaries = []) := by
  intro outcome run evaluated redefined validated strict
  have hrun := s.lower_of_mem_runStrict text s.sliders
  have hevaluate : ∀ v ∈ (s.perform (s.evaluateText text (Options.of false true))).log,
      s.engine.Lower v := s.reports_evaluateText text _ s.construction
  have hredefine : ∀ v ∈ (s.perform (s.redefinition label text wanted)).log, s.engine.Lower v :=
    s.reports_redefinition label text wanted s.construction
  have hstrict : ∀ v ∈ strict.log, s.engine.Lower v := by
    have hfst : strict = s.runStrict text sliders := runStrictWith_fst ..
    exact hfst ▸ s.lower_of_mem_runStrict text sliders
  refine ⟨?_, s.bracketed_bracket "evaluate_expression" stamp _ hevaluate,
    s.bracketed_bracket "redefine_element" stamp _ hredefine, s.validate_log stamp text, hstrict,
    fun hs => Log.boundaries_eq_nil_iff.mpr fun v hv => hs.isNote (hstrict v hv)⟩
  obtain ⟨first, last, h⟩ := s.bracketed_append "process_algebra_command" stamp [("input", text)]
    hrun (s.isNote_of_mem_warnings stamp text)
  rw [← log_run] at h
  exact ⟨first, _, last, s.warnings stamp text, s.answer_run stamp text, h, h.boundaries_eq,
    s.map_message_warnings stamp text⟩

/-- A session with the basic processor for circles and a command of its own: a call of each, and a
blank text, which is a fault. All three have two boundaries, though the processor of circles reports
a note between them, and the blank text has a warning after them. -/
theorem boundaries_bracket_calls_defined :
    let definitions : Definitions := Table.empty.insert "Polygon" (.fixed [.text "round"])
    let s := (initial.register "Circle" basicProcessor).register "Polygon" definitions.processor
    let stamp : Stamp := ⟨"algebra", ⟨"e1"⟩, 3⟩
    s.engine.ReportsNotes ∧ (∀ text, (s.run stamp text).log.boundaries.length = 2) ∧
      (s.run stamp "A = Circle(B, 7)").answer = some [.circle (.text "B") (.number (.int 7))] ∧
      (s.run stamp "Polygon(B)").answer = some [.text "round"] ∧
      (s.run stamp "").answer = none ∧ (s.run stamp "").log.length = 3 := by
  intro definitions s stamp
  have hs : s.engine.ReportsNotes :=
    (Engine.reportsNotes_initial.register "Circle" Engine.isNote_basicProcessor).register "Polygon"
      (Engine.isNote_processor definitions)
  have htwo : ∀ text, (s.run stamp text).log.boundaries.length = 2 := by
    intro text
    obtain ⟨⟨first, -, last, -, -, -, h, -⟩, -⟩ :=
      boundaries_bracket_calls s stamp "A" text false true (fun _ n => n + 1) 0
    rw [h hs]
    rfl
  have hcircle : (s.runStrict "A = Circle(B, 7)" s.sliders).answer =
      .ok [.circle (.text "B") (.number (.int 7))] := by
    have hread : s.workspace.read "A = Circle(B, 7)" =
      .ok ((Expr.command "Circle" [.text "B", .number (.int 7)]).withLabel "A") := by cbv
    refine (answer_evaluateText_of_read (Options.redefinition_run s.sliders) hread _).trans ?_
    cbv
  have hpolygon : (s.runStrict "Polygon(B)" s.sliders).answer = .ok [.text "round"] := by
    have hread : s.workspace.read "Polygon(B)" = .ok (.command "Polygon" [.text "B"]) := by cbv
    refine (answer_evaluateText_of_read (Options.redefinition_run s.sliders) hread _).trans ?_
    cbv
  refine ⟨hs, htwo, ?_, ?_, rfl, rfl⟩
  · rw [answer_run, hcircle]
    rfl
  · rw [answer_run, hpolygon]
    rfl

end Session

end GeoScript
