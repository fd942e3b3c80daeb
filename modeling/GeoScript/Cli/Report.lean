import GeoScript.Event

/-! # What the command line prints

A task prints lines on two streams, reports events, and is done or fails in the end. `Report`
collects what there is so far; `Exit` is what is left when the task is over. -/

namespace GeoScript.Cli

/-- What a task has printed and reported so far. -/
structure Report where
  output : List String
  errors : List String
  log : Log

namespace Report

/-- Nothing yet. -/
def empty : Report := { output := [], errors := [], log := [] }

/-- One more line of output. -/
def print (r : Report) (line : String) : Report := { r with output := r.output ++ [line] }

/-- More lines of output. -/
def printAll (r : Report) (lines : List String) : Report := { r with output := r.output ++ lines }

/-- One more complaint. -/
def complain (r : Report) (line : String) : Report := { r with errors := r.errors ++ [line] }

/-- More events. -/
def observe (r : Report) (log : Log) : Report := { r with log := r.log ++ log }

end Report

/-- The status, the two streams and the events of a task that is over. -/
structure Exit where
  status : UInt8
  output : String
  errors : String
  log : Log

/-- Lines as a text, each with its end. -/
def linesText (lines : List String) : String := String.join (lines.map (· ++ "\n"))

/-- The end of a task: it is done, or it failed with a message. -/
def Report.finish (r : Report) : Except String Unit → Exit
  | .ok _ =>
    { status := 0, output := linesText r.output, errors := linesText r.errors, log := r.log }
  | .error message =>
    { status := 1
      output := linesText r.output
      errors := linesText (r.complain ("Error: " ++ message)).errors
      log := r.log }

end GeoScript.Cli
