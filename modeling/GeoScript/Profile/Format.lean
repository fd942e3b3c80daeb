import GeoScript.Data.TomlReader
import GeoScript.Fault.Basic
import GeoScript.Profile.Basic

/-! # Profiles as texts

A profile is a record of fields with fixed names, two of which are records again. Read back, fields
may be missing, but none may be unknown or given twice; instead of a record there may be the list of
its fields in order, of which the last ones may be missing. The two formats differ in what else
they let pass, which `Format` lists.

* `Profile.toData`: a profile as data, with every field.
* `Profile.ofData?`: a profile from data.
* `Profile.read`: a profile from a text. -/

namespace GeoScript

-- Powers with an exponent of type `Nat` are those of the core library.
attribute [local instance (high)] instPowNat

namespace Profile

/-- The two formats of profiles. -/
inductive Format where
  | json
  | toml
deriving DecidableEq

/-- Whether a list that stands for a record may be longer than the record. -/
def Format.allowsSurplus : Format → Bool
  | .json => false
  | .toml => true

/-- Whether data may stand for the content of a choice that has none. -/
def Format.isNoContent : Format → Data → Bool
  | .json, .null | .toml, .list [] | .toml, .record [] => true
  | _, _ => false

/-! ### Writing -/

/-- A field that is always written. -/
def optionData {α : Type} (encode : α → Data) : Option α → Data
  | none => .null
  | some a => encode a

/-- Some texts as data. -/
def textsData (texts : List String) : Data := .list (texts.map Data.text)

/-- A bound as data. -/
def boundData (bound : UInt64) : Data := .int bound.toNat

end Profile

open Profile

/-- Restrictions on commands as data. -/
def CommandRules.toData (r : CommandRules) : Data :=
  .record
    [("allow", optionData textsData r.allowed),
      ("cas_allowed", .bool r.casAllowed),
      ("deny_categories", textsData r.deniedCategories)]

/-- Restrictions on the number of arguments as data. -/
def ArgumentRules.toData (r : ArgumentRules) : Data :=
  .record
    [("min", optionData boundData r.least),
      ("max", optionData boundData r.greatest)]

/-- A profile as data, with every field in order. -/
def Profile.toData (p : Profile) : Data :=
  .record
    [("silent_errors", .bool p.silentFaults),
      ("log_profile", optionData (fun s => .text s.name) p.logStyle),
      ("autocreate_sliders", .bool p.sliders),
      ("commands", p.commands.toData),
      ("arguments", p.arguments.toData)]

/-- A profile as a text. -/
def Profile.jsonText (p : Profile) : String := p.toData.jsonText

namespace Profile

/-! ### Reading the parts -/

/-- A truth value. -/
def bool? : Data → Option Bool
  | .bool b => some b
  | _ => none

/-- A text. -/
def text? : Data → Option String
  | .text s => some s
  | _ => none

/-- A list of texts. -/
def texts? : Data → Option (List String)
  | .list items => items.mapM text?
  | _ => none

/-- A whole number from zero up to the largest of 64 bits. -/
def bound? : Data → Option UInt64
  | .int n => if 0 ≤ n ∧ n < 2 ^ (64 : Nat) then some (UInt64.ofNat n.toNat) else none
  | _ => none

/-- A log style: its name, or a record with this one field and no content in it. -/
def logStyle? (format : Format) : Data → Option LogStyle
  | .text name => LogStyle.find? name
  | .record [(name, content)] =>
    if format.isNoContent content then LogStyle.find? name else none
  | _ => none

/-- Something that may be missing. -/
def option? {α : Type} (decode : Data → Option α) : Data → Option (Option α)
  | .null => some none
  | d => (decode d).map some

/-- The contents of the fields `names` of a record, in this order: the record must have no other
fields and none twice, and a list must not be too long. -/
def contents? (format : Format) (names : List String) : Data → Option (List (Option Data))
  | .record fields =>
    let keys := fields.map Prod.fst
    if keys.all names.contains && keys.all (fun k => keys.count k == 1) then
      some (names.map fun name => fields.lookup name)
    else none
  | .list items =>
    if items.length ≤ names.length || format.allowsSurplus then
      some ((List.range names.length).map fun i => items[i]?)
    else none
  | _ => none

/-- The content of a field, or what it is when it is missing. -/
def fieldOr? {α : Type} (default : α) (decode : Data → Option α) : Option Data → Option α
  | none => some default
  | some d => decode d

end Profile

/-- Restrictions on commands from data. -/
def CommandRules.ofData? (format : Format) (d : Data) : Option CommandRules := do
  match ← contents? format ["allow", "cas_allowed", "deny_categories"] d with
  | [allowed, casAllowed, deniedCategories] =>
    return {
      allowed := ← fieldOr? default.allowed (option? texts?) allowed
      casAllowed := ← fieldOr? default.casAllowed bool? casAllowed
      deniedCategories := ← fieldOr? default.deniedCategories texts? deniedCategories }
  | _ => none

/-- Restrictions on the number of arguments from data. -/
def ArgumentRules.ofData? (format : Format) (d : Data) : Option ArgumentRules := do
  match ← contents? format ["min", "max"] d with
  | [least, greatest] =>
    return {
      least := ← fieldOr? default.least (option? bound?) least
      greatest := ← fieldOr? default.greatest (option? bound?) greatest }
  | _ => none

/-- A profile from data. -/
def Profile.ofData? (format : Format) (d : Data) : Option Profile := do
  match ← contents? format
      ["silent_errors", "log_profile", "autocreate_sliders", "commands", "arguments"] d with
  | [silentFaults, logStyle, sliders, commands, arguments] =>
    return {
      silentFaults := ← fieldOr? default.silentFaults bool? silentFaults
      logStyle := ← fieldOr? default.logStyle (option? (logStyle? format)) logStyle
      sliders := ← fieldOr? default.sliders bool? sliders
      commands := ← fieldOr? default.commands (CommandRules.ofData? format) commands
      arguments := ← fieldOr? default.arguments (ArgumentRules.ofData? format) arguments }
  | _ => none

/-- **A profile from a text.** -/
def Profile.read (format : Format) (text : String) : Except Fault Profile :=
  let data := match format with
    | .json => Data.ofJson? text
    | .toml => Data.ofToml? text
  match data.bind (Profile.ofData? format) with
  | some p => .ok p
  | none => .error (.invalidProfile .malformed)

end GeoScript
