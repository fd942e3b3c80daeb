import GeoScript.Proofs.Evaluation.Wording
import GeoScript.Proofs.Session.Commit

/-! # Faults that are written down

A run and a strict run of a text do the same, but for what becomes of a fault: a strict run answers
it, and a run writes it down. The line that is written is the text and then what the record of the
fault reads as. That is the fault's own message for every fault that an evaluation can end by,
unless a processor or a test of arguments has put it in words of its own.

* `FaultLog.Wrote`, `faults_run_of_error`: a log with one fault more, and the line that it gets.
* `evaluateText_plain`: the faults of an evaluation, where nobody brings words of their own.
* `run_agrees_with_runStrict`: the main statement.
* `test_brings_its_own_words`: why it is about plain filters on arguments, too. -/

namespace GeoScript

theorem Expr.read_plain {vars : Syntax.Variables} {text : String} {fault : Fault}
    (h : Expr.read vars text = .error fault) : fault.ownWords? = none := by
  unfold Expr.read at h
  cases hr : Syntax.readTrimmed vars (Text.trim text.toList) with
  | error problem =>
    rw [hr] at h
    cases h
    rfl
  | ok e =>
    rw [hr] at h
    cases h

/-- A log with one fault more than before: its line is the context and the words, and its record
has the fault's kind and the evaluation's name. -/
structure FaultLog.Wrote (log : FaultLog) (fault : Fault) (context words : String) (id : EvalId)
    (after : FaultLog) : Prop where
  silent_eq : after.silent = log.silent
  lines_eq : after.lines = log.lines ++ [if context = "" then words else context ++ ": " ++ words]
  last : ∃ record, after.last = some record ∧ record.kind = fault.kind ∧ record.evalId = some id

theorem FaultLog.wrote_add (log : FaultLog) (fault : Fault) (context : String) (id : EvalId) :
    log.Wrote fault context (fault.ownWords?.getD fault.message) id
      (log.add { fault.record with evalId := some id } context) := by
  have hrender : FaultRecord.render { fault.record with evalId := some id } =
      fault.ownWords?.getD fault.message := fault.render_record_eq
  refine ⟨rfl, ?_, _, rfl, fault.kind_record, rfl⟩
  simp only [FaultLog.add, FaultLog.line, hrender, String.isEmpty_iff]

theorem FaultLog.Wrote.lines_of_nil {log after : FaultLog} {fault : Fault} {context words : String}
    {id : EvalId} (h : log.Wrote fault context words id after) (hlines : log.lines = [])
    (hcontext : context ≠ "") : after.lines = [context ++ ": " ++ words] := by
  rw [h.lines_eq, hlines, if_neg hcontext, List.nil_append]

namespace Session

/-- The line of a fault is the text and the message, or the fault's own words. -/
theorem faults_run_of_error (s : Session) (stamp : Stamp) {text : String} {fault : Fault}
    (h : (s.runStrict text s.sliders).answer = .error fault) :
    s.faults.Wrote fault text (fault.ownWords?.getD fault.message) stamp.evalId
      (s.run stamp text).session.faults := by
  rcases run_cases s stamp text with ⟨figures, hstrict, -⟩ | ⟨fault', hstrict, -, hsession⟩
  · cases h.symm.trans hstrict
  · cases h.symm.trans hstrict
    rw [hsession]
    exact s.faults.wrote_add fault text stamp.evalId

/-- **No fault of an evaluation has words of its own,** if processors and filters bring none. -/
theorem evaluateText_plain {s : Session} (hplain : s.engine.IsPlain) {text : String}
    {options : Options} (hr : options.redefinition = true) {c : Construction} {fault : Fault}
    (h : (s.evaluateText text options c).answer = .error fault) : fault.ownWords? = none := by
  -- The stages in turn: of all of them only the computation calls the engine.
  rw [answer_evaluateText s text c hr] at h
  split at h
  · cases h
    rfl
  rcases error_of_bind h with hread | ⟨e, hread, h⟩
  · exact Expr.read_plain hread
  split at h
  case isFalse =>
    cases h
    rfl
  rcases error_of_bind h with hcomputed | ⟨figures, -, h⟩
  · rcases evaluate_plain (Options.labels_withLabels options false) hr e c hcomputed with
      hnone | ⟨command, arguments, hcall⟩
    · exact hnone
    · exact Engine.call_plain hplain hcall
  split at h
  · exact bindLabels_plain (Expr.shaped_of_read hread) (error_of_map h)
  · cases h
    rfl

/-- **A run and a strict run agree.** They answer the same result, and they leave the same behind,
but for the log of faults. With a result the log is as it was, and a fault is written down, in its
own message after the text. Here no processor and no filter on arguments may raise a fault in words
of its own. -/
theorem run_agrees_with_runStrict {s : Session} (hplain : s.engine.IsPlain) (stamp : Stamp)
    (text : String) :
    let strict := s.runStrict text s.sliders
    let run := s.run stamp text
    (∀ figures, run.answer = some figures ↔ strict.answer = .ok figures) ∧
    (run.answer = none ↔ ∃ fault, strict.answer = .error fault) ∧
    run.session = { strict.session with faults := run.session.faults } ∧
    (∀ figures, strict.answer = .ok figures → run.session.faults = s.faults) ∧
    ∀ fault, strict.answer = .error fault →
      s.faults.Wrote fault text fault.message stamp.evalId run.session.faults := by
  intro strict run
  have hwrote : ∀ fault, strict.answer = .error fault →
      s.faults.Wrote fault text fault.message stamp.evalId run.session.faults := by
    intro fault hfault
    have hnone := evaluateText_plain hplain (Options.redefinition_run s.sliders) hfault
    have hline := s.faults_run_of_error stamp hfault
    rwa [hnone] at hline
  rcases run_cases s stamp text with
    ⟨figures, hstrict, hrun, hsession⟩ | ⟨fault, hstrict, hrun, hsession⟩
  · have hfaults : run.session.faults = s.faults := by
      rw [show run.session = strict.session from hsession]
      rfl
    refine ⟨fun figures' => ?_, ?_, ?_, fun _ _ => hfaults, hwrote⟩
    · rw [show run.answer = some figures from hrun,
        show strict.answer = .ok figures from hstrict, Option.some_inj, Except.ok.injEq]
    · rw [show run.answer = some figures from hrun, show strict.answer = .ok figures from hstrict]
      simp
    · rw [show run.session = strict.session from hsession]
  · have hunchanged : strict.session = s := session_runStrict_of_error s text s.sliders hstrict
    refine ⟨fun figures' => ?_, ?_, ?_, fun figures' h => ?_, hwrote⟩
    · rw [show run.answer = none from hrun, show strict.answer = .error fault from hstrict]
      simp
    · exact ⟨fun _ => ⟨fault, hstrict⟩, fun _ => hrun⟩
    · rw [hunchanged, show run.session = _ from hsession]
    · cases h.symm.trans hstrict

/-- A command that yields nothing, a filter that lets its arguments pass, and a label for what the
command yields. -/
theorem run_agrees_with_runStrict_nothing :
    let definitions : Definitions := Table.empty.insert "Polygon" (.fixed [])
    let s := (initial.register "Polygon" definitions.processor).addArgumentFilter
      (.all [.count 1 (some 3), .types [.int]])
    let run := s.run ⟨"algebra", ⟨"e1"⟩, 3⟩ "A = Polygon(1)"
    s.engine.IsPlain ∧ run.answer = none ∧
      run.session = { s with faults := run.session.faults } ∧
      run.session.faults.lines = ["A = Polygon(1): Cannot bind empty result to 'A'"] := by
  intro definitions s run
  have hdefinitions : definitions.processor.IsPlain := by
    refine isPlain_processor fun name definition hget arguments options fault hfault => ?_
    have hfixed : definition = .fixed [] := by
      rw [Table.get?_insert] at hget
      split at hget <;> cases hget
      rfl
    rw [hfixed] at hfault
    cases hfault
  have hfilter : ArgumentFilter.IsPlain (.all [.count 1 (some 3), .types [.int]]) := by
    refine ArgumentFilter.isPlain_of_tests fun t ht => ?_
    simp [ArgumentFilter.tests, ArgumentFilter.allTests] at ht
  have hplain : s.engine.IsPlain :=
    (Engine.isPlain_initial.register "Polygon" hdefinitions).addArgumentFilter hfilter
  have hread : s.workspace.read "A = Polygon(1)" =
      .ok ((Expr.command "Polygon" [.number (.int 1)]).withLabel "A") := by cbv
  have hfails : (s.runStrict "A = Polygon(1)" s.sliders).answer =
      .error (.invalidInput (.emptyResult "A")) := by
    refine (answer_evaluateText_of_read (Options.redefinition_run s.sliders) hread _).trans ?_
    cbv
  obtain ⟨-, hnone, hsession, -, hfaults⟩ :=
    run_agrees_with_runStrict hplain ⟨"algebra", ⟨"e1"⟩, 3⟩ "A = Polygon(1)"
  refine ⟨hplain, hnone.mpr ⟨_, hfails⟩, ?_, ?_⟩
  · rw [session_runStrict_of_error s _ _ hfails] at hsession
    exact hsession
  · have hlines := (hfaults _ hfails).lines_of_nil rfl (by decide)
    exact hlines.trans (by decide)

/-- Plain processors alone are not enough: a test of arguments may refuse every call in words of its
own, which are written down in place of the fault's message. -/
theorem test_brings_its_own_words :
    let s := initial.addArgumentFilter
      (.test fun command _ => .error (.illegalArgument command [] (some "Not today")))
    let fault : Fault := .illegalArgument "Sum" [] (some "Not today")
    let run := s.run ⟨"algebra", ⟨"e1"⟩, 3⟩ "Sum(1)"
    (∀ name p, s.engine.processors.get? name = some p → p.IsPlain) ∧
      (s.runStrict "Sum(1)" s.sliders).answer = .error fault ∧
      fault.message = "IllegalArgument: Sum" ∧
      run.session.faults.lines = ["Sum(1): Not today"] ∧
      ¬ s.faults.Wrote fault "Sum(1)" fault.message ⟨"e1"⟩ run.session.faults := by
  intro s fault run
  have hread : s.workspace.read "Sum(1)" = .ok (.command "Sum" [.number (.int 1)]) := by cbv
  have hfails : (s.runStrict "Sum(1)" s.sliders).answer = .error fault := by
    refine (answer_evaluateText_of_read (Options.redefinition_run s.sliders) hread _).trans ?_
    cbv
  have hlines : run.session.faults.lines = ["Sum(1): Not today"] := by
    have hwrote := s.faults_run_of_error ⟨"algebra", ⟨"e1"⟩, 3⟩ hfails
    exact (hwrote.lines_of_nil rfl (by decide)).trans (by decide)
  refine ⟨Engine.isPlain_initial.processors, hfails, by decide, hlines, fun hwrote => ?_⟩
  have hmessage := hlines.symm.trans (hwrote.lines_of_nil rfl (by decide))
  exact absurd hmessage (by decide)

end Session

end GeoScript
