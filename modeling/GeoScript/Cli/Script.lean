import GeoScript.Text.Blank
import GeoScript.Text.Parts

/-! # Scripts

A script has a command on each line. Blank lines and lines that begin with `#` are skipped, and
blanks around a command do not count. -/

namespace GeoScript.Cli

/-- A command of a script, and the number of its line, counted from one. -/
structure ScriptLine where
  number : Nat
  text : String
deriving DecidableEq

/-- Whether a trimmed line holds a command. -/
def isCommandLine (line : List Char) : Bool := !line.isEmpty && line.head? != some '#'

/-- **The commands of a script.** -/
def scriptLines (source : String) : List ScriptLine :=
  ((((Text.parts '\n' source.toList).map Text.trim).zipIdx 1).filter fun line =>
    isCommandLine line.1).map fun (line, number) => { number, text := String.ofList line }

end GeoScript.Cli
