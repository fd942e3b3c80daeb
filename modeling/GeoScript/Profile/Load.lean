import GeoScript.Profile.Format
import GeoScript.Text.Parts

/-! # Profiles from files

A profile file is JSON if its name says so, and TOML otherwise. Files are not read here: reading is
a function from paths to texts, so that the same rules hold on a disk and in a folder in memory.

* `Profile.Format.ofPath`: the format that a path stands for.
* `Profile.load`: the profile in a file. -/

namespace GeoScript

/-- The ending of a file's name: what follows its last full stop, if something precedes that. -/
def ending? (name : List Char) : Option (List Char) :=
  match (Text.parts '.' name).reverse with
  | [_] | [_, []] => none
  | ending :: _ => some ending
  | [] => none

/-- The format of a file: JSON for the ending `json` in any case. -/
def Profile.Format.ofPath (path : String) : Profile.Format :=
  match ending? ((Text.parts '/' path.toList).getLastD []) with
  | none => .toml
  | some ending => if Text.sameIgnoringCase (String.ofList ending) "json" then .json else .toml

/-- **The profile in a file.** -/
def Profile.load (read : String → Except ReadError String) (path : String) : Except Fault Profile :=
  match read path with
  | .error e => .error (.invalidProfile (.unreadable path e))
  | .ok text => Profile.read (.ofPath path) text

end GeoScript
