import GeoScript.Data.Basic

/-! # Session profiles

A profile describes the restrictions and the settings of a session. Everything in it may be left
out; `Profile.default` is what is left then. -/

namespace GeoScript

/-- How events are logged. -/
inductive LogStyle where
  /-- For people, with details. -/
  | development
  /-- For programs, without details. -/
  | production
  /-- Not at all, unless a test collects them. -/
  | test
deriving DecidableEq

/-- The name of a log style in profiles. -/
def LogStyle.name : LogStyle → String
  | .development => "development"
  | .production => "production"
  | .test => "test"

/-- The log style with a name, in exact case. -/
def LogStyle.find? (name : String) : Option LogStyle :=
  [LogStyle.development, .production, .test].find? fun s => s.name == name

/-- Restrictions on commands. -/
structure CommandRules where
  /-- The only commands allowed; without it, all are. -/
  allowed : Option (List String)
  /-- Whether computer algebra is allowed. -/
  casAllowed : Bool
  /-- Categories whose commands are not allowed. -/
  deniedCategories : List String
deriving DecidableEq

/-- Restrictions on the number of arguments. -/
structure ArgumentRules where
  least : Option UInt64
  greatest : Option UInt64
deriving DecidableEq

/-- The restrictions and settings of a session. -/
structure Profile where
  silentFaults : Bool
  logStyle : Option LogStyle
  sliders : Bool
  commands : CommandRules
  arguments : ArgumentRules
deriving DecidableEq

/-- Every command is allowed. -/
def CommandRules.default : CommandRules :=
  { allowed := none, casAllowed := true, deniedCategories := [] }

/-- No bounds. -/
def ArgumentRules.default : ArgumentRules := { least := none, greatest := none }

/-- No restrictions, and every setting off. -/
def Profile.default : Profile :=
  { silentFaults := false, logStyle := none, sliders := false,
    commands := .default, arguments := .default }

end GeoScript
