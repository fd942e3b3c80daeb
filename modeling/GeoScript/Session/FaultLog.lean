import GeoScript.Event

/-! # The log of faults

A session that keeps faults to itself writes them down: one line for each, and the record of the
last. Unless it is silent it also reports them. -/

namespace GeoScript

/-- Faults that were written down. -/
structure FaultLog where
  silent : Bool
  lines : List String
  last : Option FaultRecord

namespace FaultLog

/-- Nothing written down yet. -/
def new (silent : Bool) : FaultLog := { silent, lines := [], last := none }

/-- The line of a record, after its context, if there is any. -/
def line (record : FaultRecord) (context : String) : String :=
  if context.isEmpty then record.render else context ++ ": " ++ record.render

/-- Writes a record down. -/
def add (log : FaultLog) (record : FaultRecord) (context : String) : FaultLog :=
  { log with lines := log.lines ++ [line record context], last := some record }

/-- What is reported when a record is written down. -/
def events (log : FaultLog) (record : FaultRecord) (context : String) : Log :=
  if log.silent then []
  else
    [.note .warn "command failed"
      [("err_code", record.kind.code), ("error", line record context)]]

/-- Forgets everything. -/
def clear (log : FaultLog) : FaultLog := { log with lines := [], last := none }

end FaultLog

end GeoScript
