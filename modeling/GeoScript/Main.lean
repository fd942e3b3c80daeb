import GeoScript.Cli.LogLine
import GeoScript.Cli.Tasks

/-! # The program

Reads the files that the arguments name, lets `Cli.respond` answer, and prints the answer. -/

namespace GeoScript.Cli

/-- The cause behind an error of the operating system. -/
def causeOf : IO.Error → ReadError
  | .noFileOrDirectory .. => .missing
  | .inappropriateType _ 21 _ => .isADirectory
  | .inappropriateType _ 20 _ => .notADirectory
  | .invalidArgument _ 36 _ => .nameTooLong
  | e => .other (toString e)

/-- The text of a file. -/
def readText (path : String) : IO (Except ReadError String) := do
  match ← (IO.FS.readBinFile path).toBaseIO with
  | .error e => return .error (causeOf e)
  | .ok content =>
    match String.fromUTF8? content with
    | some text => return .ok text
    | none => return .error .notText

/-- The files that arguments name. -/
def paths (arguments : List String) : List String :=
  match Invocation.ofArguments arguments with
  | .error _ => []
  | .ok { profile, task := .run script .., .. } => profile.toList ++ [script]
  | .ok { profile, .. } => profile.toList

end GeoScript.Cli

open GeoScript GeoScript.Cli

/-- Answers to the arguments, with the events on the stream for complaints. -/
def main (arguments : List String) : IO UInt32 := do
  let texts ← (paths arguments).mapM fun path => return (path, ← readText path)
  let (exit, style) := respond (fun path => (texts.lookup path).getD (.error .missing)) arguments
  IO.print exit.output
  if let some style := style then IO.eprint (linesText (exit.log.lines style))
  IO.eprint exit.errors
  return exit.status.toUInt32
