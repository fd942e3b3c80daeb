import GeoScript.Fault.Record

/-! # Events

What an operation reports while it runs: events in the order in which they happen, each with a
level and named texts. Boundary events mark the start and the end of an operation of a session; the
layers below only leave notes.

* `Event.note`: a note.
* `Event.started`, `Event.ended`, `Event.failed`: boundary events.
* `Log.ofOperation`, `Log.mentions`, `Log.failures`: what a list of events says. -/

namespace GeoScript

/-- How important an event is. -/
inductive Level where
  | trace
  | debug
  | info
  | warn
  | error
deriving DecidableEq

/-- The name of a level. -/
def Level.name : Level → String
  | .trace => "TRACE"
  | .debug => "DEBUG"
  | .info => "INFO"
  | .warn => "WARN"
  | .error => "ERROR"

/-- Something that happened. -/
structure Event where
  level : Level
  fields : List (String × String)
deriving DecidableEq

namespace Event

/-- The text of a field. -/
def field? (e : Event) (name : String) : Option String := e.fields.lookup name

/-- The operation whose boundary an event marks. -/
def operation? (e : Event) : Option String := e.field? "op"

/-- Which boundary it is: `start`, `end` or `end_error`. -/
def boundary? (e : Event) : Option String := e.field? "event"

/-- A note. -/
def note (level : Level) (message : String) (fields : List (String × String)) : Event :=
  { level, fields := ("message", message) :: fields }

/-- The start of an operation. -/
def started (component operation : String) (fields : List (String × String)) : Event :=
  { level := .info,
    fields := [("component", component), ("op", operation), ("event", "start")] ++ fields }

/-- The end of an operation after so many milliseconds. -/
def ended (component operation : String) (elapsed : Nat) (fields : List (String × String)) :
    Event :=
  { level := .info,
    fields := [("component", component), ("op", operation), ("event", "end"),
      ("duration_ms", elapsed.repr)] ++ fields }

/-- The end of an operation by a fault. -/
def failed (component operation : String) (elapsed : Nat) (kind : FaultKind)
    (fields : List (String × String)) : Event :=
  { level := .error,
    fields := [("component", component), ("op", operation), ("event", "end_error"),
      ("duration_ms", elapsed.repr), ("err_kind", kind.name), ("err_code", kind.code)] ++ fields }

end Event

/-- Events in the order in which they happened. -/
abbrev Log := List Event

namespace Log

/-- The boundary events of an operation. -/
def ofOperation (log : Log) (operation : String) : Log :=
  log.filter fun e => e.operation? == some operation

/-- Whether a boundary of an operation is reported. -/
def mentions (log : Log) (operation boundary : String) : Bool :=
  log.any fun e => e.operation? == some operation && e.boundary? == some boundary

/-- How many operations ended by a fault. -/
def failures (log : Log) : Nat := log.countP fun e => e.boundary? == some "end_error"

end Log

end GeoScript
