import GeoScript.Session.Basic
import GeoScript.Validation

/-! # Evaluating text in a session

A text is read, shown to the input filters, evaluated without binding labels, shown to the output
filters, and only then are its labels bound. A fault at any stage leaves the session as it was.

* `Session.evaluateText`: these stages.
* `Session.run`: faults are written down and nothing is answered; `runStrict`: faults are answered.
* `Session.runStrictWith`: a strict run that calls a callback with its result.
* `Session.evaluate`: no labels are bound.
* `Session.redefine`: a label that is bound gets the result of a text.
* `Session.validate`: the problems of a text.

All but the strict runs report their start and their end. -/

namespace GeoScript

/-- What the outside world knows of a call: the component that reports it, its name, and how many
milliseconds it took. -/
structure Stamp where
  component : String
  evalId : EvalId
  elapsed : Nat

/-- What a call leaves behind. -/
structure Reply (α : Type) where
  answer : α
  session : Session
  log : Log

namespace Session

/-- Reads a text that is not blank, and reports its labels. -/
def readText (s : Session) (text : String) : Traced Expr :=
  if Text.isEmptyText text then .fail (.invalidInput .emptyCommand)
  else match s.workspace.read text with
    | .error fault => .fail fault
    | .ok e => ⟨.ok e, readingLog e⟩

/-- The stages of an evaluation, as work on the construction. -/
def evaluateText (s : Session) (text : String) (options : Options) :
    Action Construction (List Figure) := do
  let e ← .ofTraced (s.readText text)
  if s.admits e then
    let figures ← GeoScript.evaluate s.engine (options.withLabels false) e
    if s.releases figures then
      bindLabels e figures options
      return figures
    else .fail (.invalidInput .resultRefused)
  else .fail (.invalidInput .expressionRefused)

/-- The reply of an action on the construction. -/
def perform {α : Type} (s : Session) (x : Action Construction α) : Reply (Except Fault α) :=
  let done := x s.construction
  { answer := done.answer, session := s.withConstruction done.state, log := done.log }

/-- A reply between the start and the end of an operation. `facts` are reported with the start. -/
def bracket (operation : String) (stamp : Stamp) (facts : List (String × String))
    (r : Reply (Except Fault (List Figure))) : Reply (Except Fault (List Figure)) :=
  let id := ("eval_id", stamp.evalId.text)
  let last := match r.answer with
    | .ok figures =>
      Event.ended stamp.component operation stamp.elapsed
        [id, ("result_len", figures.length.repr)]
    | .error fault => Event.failed stamp.component operation stamp.elapsed fault.kind [id]
  { r with log := .started stamp.component operation (id :: facts) :: (r.log ++ [last]) }

/-- The result of a text, with its labels bound, or the fault. The callback gets the result. -/
def runStrict (s : Session) (text : String) (sliders : Bool) : Reply (Except Fault (List Figure)) :=
  s.perform (s.evaluateText text ((Options.of true true).withSliders sliders))

/-- An evaluation, and after it a call of the callback with the result. What the callback keeps
stands beside the construction. -/
def calling {κ : Type} (callback : List Figure → κ → κ) (x : Action Construction (List Figure)) :
    Action (Construction × κ) (List Figure) := do
  let figures ← Action.onPart Prod.fst (fun p c => (c, p.2)) x
  Action.modify fun p => (p.1, callback figures p.2)
  return figures

/-- A strict run with a callback, and what the callback has kept after it. -/
def runStrictWith {κ : Type} (s : Session) (text : String) (sliders : Bool)
    (callback : List Figure → κ → κ) (kept : κ) : Reply (Except Fault (List Figure)) × κ :=
  let x := s.evaluateText text ((Options.of true true).withSliders sliders)
  let done := calling callback x (s.construction, kept)
  ({ answer := done.answer, session := s.withConstruction done.state.1, log := done.log },
    done.state.2)

/-- The result of a text, with its labels bound. A fault is written down. -/
def run (s : Session) (stamp : Stamp) (text : String) : Reply (Option (List Figure)) :=
  let r := bracket "process_algebra_command" stamp [("input", text)] (s.runStrict text s.sliders)
  match r.answer with
  | .ok figures => { answer := some figures, session := r.session, log := r.log }
  | .error fault =>
    let record := { fault.record with evalId := some stamp.evalId }
    { answer := none
      session := { r.session with faults := r.session.faults.add record text }
      log := r.log ++ r.session.faults.events record text }

/-- The result of a text, without binding labels. -/
def evaluate (s : Session) (stamp : Stamp) (text : String) : Reply (Except Fault (List Figure)) :=
  bracket "evaluate_expression" stamp [("input", text)]
    (s.perform (s.evaluateText text (Options.of false true)))

/-- The stages of a redefinition: the label must be bound, redefining must be wanted, and the label
gets the result of the text; labels in the text are not bound. -/
def redefinition (s : Session) (label text : String) (wanted : Bool) :
    Action Construction (List Figure) :=
  if s.construction.isFree label then .fail (.undefinedVariable label)
  else if !wanted then .fail (.nameUsed label)
  else do
    let options := (Options.of false true).withSliders true
    let figures ← s.evaluateText text options
    record label figures (options.withLabels true)
    return figures

/-- Evaluates a text again for a label that is bound. -/
def redefine (s : Session) (stamp : Stamp) (label text : String) (wanted : Bool) :
    Reply (Except Fault (List Figure)) :=
  bracket "redefine_element" stamp [("label", label), ("input", text)]
    (s.perform (s.redefinition label text wanted))

/-- The events of reading a text, blank or not. -/
def readingEvents (s : Session) (text : String) : Log :=
  match s.workspace.read text with
  | .error _ => []
  | .ok e => readingLog e

/-- The problems of a text. -/
def validate (s : Session) (stamp : Stamp) (text : String) : Reply (List Problem) :=
  let problems := problemsOfText s.vars text
  { answer := problems
    session := s
    log :=
      .started stamp.component "validate_expression" [("input", text)] ::
        (s.readingEvents text ++
          [.ended stamp.component "validate_expression" stamp.elapsed
            [("problems", problems.length.repr)]]) }

/-- Calls a command on arguments, past the filters on input and output. -/
def call (s : Session) (name : String) (arguments : List Value) (options : Options) :
    Traced (List Figure) :=
  s.engine.call name arguments options

/-- Writes a record of a fault down. -/
def report (s : Session) (record : FaultRecord) (context : String) : Reply String :=
  { answer := FaultLog.line record context
    session := { s with faults := s.faults.add record context }
    log := s.faults.events record context }

end Session

end GeoScript
