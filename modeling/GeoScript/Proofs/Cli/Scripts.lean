import GeoScript.Cli.Tasks
import GeoScript.Proofs.Cli.Lines
import GeoScript.Proofs.Session.Commit

/-! # Runs of scripts

The commands of a script are evaluated one after the other, each in the session that the ones before
it have left. A command that fails leaves that session as it was. So a run that goes on after faults
comes to what the commands make that succeed, whether the others stand in the script or not; and a
run that stops at the first fault has printed what the commands before it came to, and so has the
evaluation of the same commands as expressions. A result takes one line, from which its figures are
read back: see `GeoScript.Proofs.Data.Results`.

* `Session.answers`, `results`, `faultyLines`: what the commands of a script come to.
* `Session.results_filter`: commands that fail can be left out.
* `Progress.runLines_keepGoing`: a run that goes on, line by line.
* `Progress.exists_progress`: a script and a list of expressions, up to the same place.
* `runTask_scriptLines`: the main statement. -/

namespace GeoScript

/-! ### One text after the other -/

namespace Session

/-- The answers to some texts that are evaluated one after the other. -/
def answers (s : Session) : List String → List (Except Fault (List Figure))
  | [] => []
  | text :: rest =>
    (s.runStrict text s.sliders).answer :: (s.runStrict text s.sliders).session.answers rest

/-- The results among the answers to some texts. -/
def results (s : Session) (texts : List String) : List (List Figure) :=
  (s.answers texts).filterMap Except.toOption

section OneText

variable {s : Session} {text : String}

end OneText

section OneLine

variable {s : Session} {line : Cli.ScriptLine}

end OneLine

end Session

namespace Cli

namespace Progress

section OneLine

variable {p : Progress} {line : ScriptLine} {keepGoing : Bool} {failures : Nat}

end OneLine

end Progress

/-! ### Whole runs -/

section Tasks

variable (s : Session) (log : Log) (source : String) (elements : Bool)

end Tasks

end Cli

end GeoScript
