import GeoScript.Catalog.Reading
import GeoScript.Cli.Arguments
import GeoScript.Cli.Report
import GeoScript.Cli.Script
import GeoScript.Profile.Apply
import GeoScript.Profile.Load
import GeoScript.Session.Run

/-! # The tasks of the command line

Every task begins with a session, under a profile if one is given. Expressions are evaluated in
order against its construction, so that what one binds the next ones see; the first fault ends the
task, unless a script is to go on.

* `openSession`: the session to begin with.
* `Task.carryOut`: a task in a session.
* `Invocation.carryOut`: a task with its session.
* `respond`: the answer to the arguments. -/

namespace GeoScript.Cli

/-- Where the texts of files come from. -/
abbrev Reader := String → Except ReadError String

/-- The session to begin with, the style in which its profile wants events logged, and the events so
far. -/
def openSession (read : Reader) :
    Option String → Except Fault (Session × Option LogStyle × Log)
  | none => .ok (.initial, none, [])
  | some path => do
    let profile ← Profile.load read path
    let (session, _, log) ← profile.applyTo .initial
    return (session, profile.logStyle, log)

/-- What a task has made so far: a session, and what there is to print. -/
structure Progress where
  session : Session
  report : Report

namespace Progress

/-- Evaluates an expression and binds its labels. -/
def evaluate (p : Progress) (text : String) : Progress × Except Fault (List Figure) :=
  let r := p.session.runStrict text p.session.sliders
  ({ session := r.session, report := p.report.observe r.log }, r.answer)

/-- Prints a result. -/
def printResult (p : Progress) (figures : List Figure) : Progress :=
  { p with report := p.report.print (resultText figures) }

/-- Prints what the labels stand for, if that is wanted. -/
def printElements (p : Progress) (wanted : Bool) : Progress :=
  if wanted then
    { p with
      report := p.report.printAll
        (p.session.construction.elements.map fun (label, figures) =>
          label ++ " = " ++ resultText figures) }
  else p

/-- Complains about a line. -/
def complain (p : Progress) (line : String) : Progress :=
  { p with report := p.report.complain line }

/-- Evaluates expressions up to the first fault, and prints their results. -/
def evaluateAll (p : Progress) : List String → Progress × Except Fault Unit
  | [] => (p, .ok ())
  | text :: rest =>
    match p.evaluate text with
    | (p, .error fault) => (p, .error fault)
    | (p, .ok figures) => (p.printResult figures).evaluateAll rest

/-- A fault in a line of a script. -/
def faultLine (line : ScriptLine) (fault : Fault) : String :=
  "line " ++ line.number.repr ++ ": " ++ fault.message

/-- Evaluates the lines of a script and prints their results, up to the first fault unless it is to
go on. Answers with the number of faults that it went on from. -/
def runLines (p : Progress) (keepGoing : Bool) (failures : Nat) :
    List ScriptLine → Progress × Except String Nat
  | [] => (p, .ok failures)
  | line :: rest =>
    match p.evaluate line.text with
    | (p, .ok figures) => (p.printResult figures).runLines keepGoing failures rest
    | (p, .error fault) =>
      if keepGoing then
        (p.complain (faultLine line fault)).runLines keepGoing (failures + 1) rest
      else (p, .error (faultLine line fault))

end Progress

/-! ### The tasks -/

/-- Prints the results of expressions, and then the elements. -/
def evalTask (p : Progress) (expressions : List String) (elements : Bool) : Exit :=
  match p.evaluateAll expressions with
  | (p, .error fault) => p.report.finish (.error fault.message)
  | (p, .ok ()) => (p.printElements elements).report.finish (.ok ())

/-- Prints the results of a script, and then the elements. -/
def runTask (p : Progress) (source : Except ReadError String) (keepGoing elements : Bool) : Exit :=
  match source with
  | .error e => p.report.finish (.error e.message)
  | .ok source =>
    match p.runLines keepGoing 0 (scriptLines source) with
    | (p, .error message) => p.report.finish (.error message)
    | (p, .ok failures) =>
      (p.printElements elements).report.finish
        (if failures = 0 then .ok () else .error (failures.repr ++ " line(s) failed"))

/-- A category in the list of categories: the tag in a column of sixteen, and the title. -/
def categoryLine (c : Category) : String :=
  c.tag ++ String.ofList (List.replicate (16 - c.tag.length) ' ') ++ " " ++ c.title

/-- Prints the names of the commands, of one category if one is given. -/
def listTask (p : Progress) (category : Option String) : Exit :=
  match category with
  | none => (p.report.printAll (Command.all.map Command.name)).finish (.ok ())
  | some name =>
    match Category.read name with
    | .error fault => p.report.finish (.error fault.message)
    | .ok c => (p.report.printAll ((Command.ofCategory c).map Command.name)).finish (.ok ())

/-- Prints the hint at a command's arguments. -/
def signatureTask (p : Progress) (name : String) : Exit :=
  match Command.find? name with
  | none => p.report.finish (.error (Problem.unknownCommand name).message)
  | some c => (p.report.print c.signature).finish (.ok ())

/-- Prints the problems of expressions. -/
def validateTask (p : Progress) (expressions : List String) : Exit :=
  let problems := expressions.flatMap fun text =>
    (problemsOfText p.session.vars text).map fun problem => text ++ ": " ++ problem.message
  let report :=
    (p.report.observe (expressions.flatMap p.session.readingEvents)).printAll problems
  if problems.isEmpty then (report.print "ok").finish (.ok ())
  else report.finish (.error (problems.length.repr ++ " problem(s) found"))

/-- A task in a session. -/
def Task.carryOut (read : Reader) (p : Progress) : Task → Exit
  | .eval expressions elements => evalTask p expressions elements
  | .run script keepGoing elements => runTask p (read script) keepGoing elements
  | .listCommands category => listTask p category
  | .listCategories => (p.report.printAll (Category.all.map categoryLine)).finish (.ok ())
  | .showSignature name => signatureTask p name
  | .validate expressions => validateTask p expressions

/-- A task with its session, and the style in which its events are to be logged. -/
def Invocation.carryOut (read : Reader) (i : Invocation) : Exit × Option LogStyle :=
  match openSession read i.profile with
  | .error fault => (Report.empty.finish (.error fault.message), none)
  | .ok (session, style, log) =>
    (i.task.carryOut read { session, report := Report.empty.observe log },
      if i.verbose then some .development else style)

/-! ### The answer to the arguments -/

/-- How the command line is used. -/
def usage : String := linesText
  ["Usage: geoscript [--profile FILE] [-v] COMMAND",
    "",
    "Commands:",
    "  eval EXPR... [--elements]                evaluate expressions in one session",
    "  run SCRIPT [--keep-going] [--elements]   run a script, one command per line",
    "  commands [--category NAME]               list the commands",
    "  commands --categories                    list the categories",
    "  syntax NAME                              show the arguments of a command",
    "  validate EXPR...                         check expressions without evaluating them",
    "",
    "Options, before or after the command:",
    "  --profile FILE    session profile, JSON if its name ends in .json and TOML otherwise",
    "  -v, --verbose     log events",
    "  -h, --help        show this text"]

/-- **The answer to the arguments:** a task is carried out, help is given, and misuse has a status
of its own. -/
def respond (read : Reader) (arguments : List String) : Exit × Option LogStyle :=
  match Invocation.ofArguments arguments with
  | .ok invocation => invocation.carryOut read
  | .error .help => ({ status := 0, output := usage, errors := "", log := [] }, none)
  | .error .misuse => ({ status := 2, output := "", errors := usage, log := [] }, none)

end GeoScript.Cli
