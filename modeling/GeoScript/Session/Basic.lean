import GeoScript.Session.FaultLog
import GeoScript.Workspace

/-! # Sessions

A session is a workspace with filters on the expressions that go in and on the results that come
out, a log of faults, and a setting for sliders.

Attaching a filter answers with its handle; the four chains number their handles apart. -/

namespace GeoScript

open GeoScript.Filter (Chain Handle)

/-- A workspace with its guards and settings. -/
structure Session where
  workspace : Workspace
  inputFilters : Chain (Expr → Bool)
  outputFilters : Chain (List Figure → Bool)
  faults : FaultLog
  sliders : Bool

namespace Session

/-- A fresh workspace, no filters, a log of faults that is not silent, and no sliders. -/
def initial : Session where
  workspace := .initial
  inputFilters := .empty
  outputFilters := .empty
  faults := .new false
  sliders := false

/-! ### The parts of the workspace -/

def vars (s : Session) : Syntax.Variables := s.workspace.vars
def engine (s : Session) : Engine := s.workspace.engine
def construction (s : Session) : Construction := s.workspace.construction

/-- The session with another engine. -/
def withEngine (s : Session) (e : Engine) : Session :=
  { s with workspace := { s.workspace with engine := e } }

/-- The session with another construction. -/
def withConstruction (s : Session) (c : Construction) : Session :=
  { s with workspace := { s.workspace with construction := c } }

/-- The session with other variables. -/
def withVariables (s : Session) (v : Syntax.Variables) : Session :=
  { s with workspace := { s.workspace with vars := v } }

/-! ### Variables and bindings -/

/-- Gives a variable a value. -/
def setVariable (s : Session) (name : String) (v : Value) : Session :=
  s.withVariables (s.vars.insert name v)

/-- Binds a label by hand. -/
def bind? (s : Session) (label : String) (figures : List Figure) : Except Fault Session :=
  match s.construction.bind? label figures with
  | .error problem => .error (.invalidInput problem)
  | .ok c => .ok (s.withConstruction c)

/-- Removes a label. -/
def remove (s : Session) (label : String) : Session :=
  s.withConstruction (s.construction.remove label)

/-- Removes every label and every variable. -/
def clear (s : Session) : Session :=
  (s.withConstruction s.construction.clear).withVariables .empty

/-- Says whether evaluations are to bind labels. -/
def suppress (s : Session) (suppressed : Bool) : Session :=
  s.withConstruction { s.construction with suppressed }

/-! ### Filters and processors -/

def addInputFilter (s : Session) (f : Expr → Bool) : Session :=
  { s with inputFilters := s.inputFilters.add f }

def removeInputFilter (s : Session) (handle : Handle) : Session :=
  { s with inputFilters := s.inputFilters.remove handle }

def addOutputFilter (s : Session) (f : List Figure → Bool) : Session :=
  { s with outputFilters := s.outputFilters.add f }

def removeOutputFilter (s : Session) (handle : Handle) : Session :=
  { s with outputFilters := s.outputFilters.remove handle }

def addCommandFilter (s : Session) (f : CommandFilter) : Session :=
  s.withEngine (s.engine.addCommandFilter f)

def removeCommandFilter (s : Session) (handle : Handle) : Session :=
  s.withEngine (s.engine.removeCommandFilter handle)

def addArgumentFilter (s : Session) (f : ArgumentFilter) : Session :=
  s.withEngine (s.engine.addArgumentFilter f)

def removeArgumentFilter (s : Session) (handle : Handle) : Session :=
  s.withEngine (s.engine.removeArgumentFilter handle)

def register (s : Session) (name : String) (p : Processor) : Session :=
  s.withEngine (s.engine.register name p)

/-- Whether every input filter lets an expression in. -/
def admits (s : Session) (e : Expr) : Bool := s.inputFilters.filters.all fun f => f e

/-- Whether every output filter lets a result out. An empty result is not shown to them. -/
def releases (s : Session) (figures : List Figure) : Bool :=
  figures.isEmpty || s.outputFilters.filters.all fun f => f figures

end Session

end GeoScript
