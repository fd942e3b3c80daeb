import GeoScript.Profile.Basic
import GeoScript.Session.Basic

/-! # Applying a profile to a session

The names in a profile are looked up first; only if all of them are known, and the bounds are in
order, are its filters attached and its settings made. A profile that is refused changes nothing.

* `Profile.resolve`: the filters of a profile.
* `Profile.applyTo`: the session under a profile, with the handles of the new filters. -/

namespace GeoScript

open GeoScript.Filter (Chain Handle)

namespace Profile

/-- The filters that a profile stands for. -/
structure Restrictions where
  commandFilters : List CommandFilter
  argumentFilters : List ArgumentFilter

/-- The command with a name, or the profile's fault. -/
def resolveCommand (name : String) : Except ProfileProblem Command :=
  match Command.find? name with
  | some c => .ok c
  | none => .error (.unknownCommand name)

/-- The category with a name, or the profile's fault. -/
def resolveCategory (name : String) : Except ProfileProblem Category :=
  match Category.find? name with
  | some c => .ok c
  | none => .error (.unknownCategory name)

/-- The filter of a list of allowed commands, if there is one. -/
def allowFilter (allowed : Option (List String)) : Except ProfileProblem (List CommandFilter) :=
  match allowed with
  | none => .ok []
  | some names => (names.mapM resolveCommand).map fun commands => [.only commands]

/-- The filter of the bounds on arguments, if there are any; the lower one is zero by default. -/
def countFilter (r : ArgumentRules) : Except ProfileProblem (List ArgumentFilter) :=
  match r.least, r.greatest with
  | none, none => .ok []
  | some least, none => .ok [.count least.toNat none]
  | none, some greatest => .ok [.count 0 (some greatest.toNat)]
  | some least, some greatest =>
    if greatest < least then .error (.crossedBounds least.toNat greatest.toNat)
    else .ok [.count least.toNat (some greatest.toNat)]

/-- The filters of a profile: the allow-list, the gate on computer algebra, the gates on the denied
categories, and the bounds on arguments. -/
def resolve (p : Profile) : Except ProfileProblem Restrictions := do
  let allow ← allowFilter p.commands.allowed
  let denied ← p.commands.deniedCategories.mapM resolveCategory
  let count ← countFilter p.arguments
  let cas := if p.commands.casAllowed then [] else [CommandFilter.cas false]
  return {
    commandFilters := allow ++ cas ++ denied.map fun c => .gate c false
    argumentFilters := count }

end Profile

/-- Attaches some filters to a chain, and answers with their handles. -/
def Filter.Chain.addAll {α : Type} (chain : Chain α) : List α → Chain α × List Handle
  | [] => (chain, [])
  | f :: fs =>
    let (last, handles) := (chain.add f).addAll fs
    (last, chain.nextHandle :: handles)

namespace Session

/-- The session with the filters and settings of a profile, and the handles of the filters on
commands and on arguments. -/
def restrict (s : Session) (p : Profile) (r : Profile.Restrictions) :
    Session × List Handle × List Handle :=
  let (commandFilters, commandHandles) := s.engine.commandFilters.addAll r.commandFilters
  let (argumentFilters, argumentHandles) := s.engine.argumentFilters.addAll r.argumentFilters
  let restricted := s.withEngine { s.engine with commandFilters, argumentFilters }
  ({ restricted with
      faults := { s.faults with silent := p.silentFaults }
      sliders := p.sliders },
    commandHandles, argumentHandles)

end Session

/-- **The session under a profile,** with the handles of the new filters, those on commands first,
and the event that reports it; or the profile's fault. -/
def Profile.applyTo (p : Profile) (s : Session) : Except Fault (Session × List Handle × Log) :=
  match p.resolve with
  | .error problem => .error (.invalidProfile problem)
  | .ok r =>
    let (restricted, commandHandles, argumentHandles) := s.restrict p r
    let handles := commandHandles ++ argumentHandles
    .ok (restricted, handles,
      [.note .debug "session profile applied" [("filters", handles.length.repr)]])

end GeoScript
