import GeoScript.Evaluation.Basic
import GeoScript.Filter.Chain
import GeoScript.Filter.Commands
import GeoScript.Table

/-! # Calling commands

The engine holds what decides about a call: the filters on commands, the processors by the names of
commands, and the filters on arguments. A call passes them in this order, and the first fault ends
it.

* `Engine.initial`: the basic processor for geometry, statistics and algebra, and no filters.
* `Engine.call`: the result of a call. -/

namespace GeoScript

open GeoScript.Filter (Chain Handle)

/-- Processors and filters. -/
structure Engine where
  processors : Table Processor
  commandFilters : Chain CommandFilter
  argumentFilters : Chain ArgumentFilter

namespace Engine

/-- The categories of the basic processor. -/
def basicCategories : List Category := [.geometry, .statistics, .algebra]

/-- The basic processor for the commands of its categories, and no filters. -/
def initial : Engine where
  processors :=
    ⟨(Command.all.filter fun c => basicCategories.contains c.category).map
      fun c => (c.name, basicProcessor)⟩
  commandFilters := .empty
  argumentFilters := .empty

/-- Whether every filter on commands lets a command pass. -/
def allows (e : Engine) (c : Command) : Bool := e.commandFilters.filters.all fun f => f.allows c

/-- The first fault that the filters on arguments find. -/
def checkArguments (e : Engine) (command : String) (arguments : List Value) : Except Fault Unit :=
  ArgumentFilter.checkAll e.argumentFilters.filters command arguments

/-- Whether a processor is installed for a name. -/
def hasProcessor (e : Engine) (name : String) : Bool := e.processors.contains name

/-- Installs a processor for a name, in place of an earlier one. -/
def register (e : Engine) (name : String) (p : Processor) : Engine :=
  { e with processors := e.processors.insert name p }

/-- Attaches a filter on commands. -/
def addCommandFilter (e : Engine) (f : CommandFilter) : Engine :=
  { e with commandFilters := e.commandFilters.add f }

/-- Detaches a filter on commands. -/
def removeCommandFilter (e : Engine) (handle : Handle) : Engine :=
  { e with commandFilters := e.commandFilters.remove handle }

/-- Attaches a filter on arguments. -/
def addArgumentFilter (e : Engine) (f : ArgumentFilter) : Engine :=
  { e with argumentFilters := e.argumentFilters.add f }

/-- Detaches a filter on arguments. -/
def removeArgumentFilter (e : Engine) (handle : Handle) : Engine :=
  { e with argumentFilters := e.argumentFilters.remove handle }

/-- The result of a call: the name must be in the catalogue, the filters on commands must let it
pass, a processor must be installed for it, and the filters on arguments must find no fault. -/
def call (e : Engine) (name : String) (arguments : List Value) (options : Options) :
    Traced (List Figure) :=
  match Command.find? name with
  | none => .fail (.unknownCommand name)
  | some c =>
    if e.allows c then
      match e.processors.get? name with
      | none => .fail (.unknownCommand name)
      | some processor =>
        match e.checkArguments name arguments with
        | .error fault => .fail fault
        | .ok () =>
          .after
            (.note .trace "dispatching" [("command", name), ("argc", arguments.length.repr)])
            (processor c arguments options)
    else
      .after (.note .debug "rejected by command filter" [("command", name)])
        (.fail (.commandNotAllowed name))

end Engine

end GeoScript
