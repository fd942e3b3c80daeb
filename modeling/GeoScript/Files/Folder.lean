import GeoScript.Files.ReadError
import GeoScript.Text.Parts

/-! # Folders in memory

A folder with files in it, in which paths are followed as an operating system follows them: name by
name, with `.` for the place itself, `..` for the place above, and every place but the last a
directory. Outside of the folder only that is known which is the same everywhere: the directories
above it have no other entries, and those at the root have a fixed few.

* `Folder.follow`: what stands at a path.
* `Folder.read`: the text of the file at a path. -/

namespace GeoScript

/-- What can stand at a place. -/
inductive Entry where
  | file (content : ByteArray)
  | directory

/-- A folder: what stands in it and below it, each with the names that lead there. -/
structure Folder where
  entries : List (List String × Entry)

namespace Folder

/-- A place: the names that lead to it from the folder or from the root, or a directory between the
root and the folder. -/
inductive Place where
  | inside (names : List String)
  | fromRoot (names : List String)
  | above

/-- What stands at the root everywhere: some directories, and two files that read as empty. -/
def standard : Folder where
  entries :=
    ["dev", "etc", "home", "opt", "proc", "sys", "tmp", "usr", "var"].map (([·], .directory)) ++
      ["null", "stdin"].map ((["dev", ·], .file .empty))

/-- The longest name, in bytes. -/
def longestName : Nat := 255

/-- The longest path, in bytes. -/
def longestPath : Nat := 4095

/-- The names of a path. An empty name stands for the place itself. -/
def names (path : String) : List String := (Text.parts '/' path.toList).map String.ofList

/-- What the names lead to: the folder itself, an entry, or a directory that has entries. -/
def find? (f : Folder) (names : List String) : Option Entry :=
  match names, f.entries.lookup names with
  | [], _ => some .directory
  | _, some entry => some entry
  | _, none => if f.entries.any fun e => names.isPrefixOf e.1 then some .directory else none

/-- What stands at a place. -/
def at? (f : Folder) : Place → Option Entry
  | .inside names => f.find? names
  | .fromRoot names => standard.find? names
  | .above => some .directory

/-- The place above a place. Nothing is above the root. -/
def leave : Place → Place
  | .above | .inside [] => .above
  | .inside names => .inside names.dropLast
  | .fromRoot names => .fromRoot names.dropLast

/-- The place that a name leads to from a directory. -/
def enter (place : Place) (name : String) : Except ReadError Place :=
  if name == "" || name == "." then .ok place
  else if name == ".." then .ok (leave place)
  else if longestName < name.utf8ByteSize then .error .nameTooLong
  else
    match place with
    | .inside names => .ok (.inside (names ++ [name]))
    | .fromRoot names => .ok (.fromRoot (names ++ [name]))
    | .above => .error .missing

/-- Goes on from a place by some names, as far as there are directories. -/
def walk (f : Folder) (place : Place) : List String → Except ReadError Entry
  | [] =>
    match f.at? place with
    | some entry => .ok entry
    | none => .error .missing
  | name :: rest =>
    match f.at? place with
    | some .directory =>
      match enter place name with
      | .ok next => f.walk next rest
      | .error e => .error e
    | some (.file _) => .error .notADirectory
    | none => .error .missing

/-- What stands at a path; one that begins with a slash begins at the root. -/
def follow (f : Folder) (path : String) : Except ReadError Entry :=
  if path.contains '\x00' then .error .nulInPath
  else if path.isEmpty then .error .missing
  else if longestPath < path.utf8ByteSize then .error .nameTooLong
  else f.walk (if path.startsWith "/" then .fromRoot [] else .inside []) (names path)

/-- **The text of the file at a path.** -/
def read (f : Folder) (path : String) : Except ReadError String :=
  match f.follow path with
  | .error e => .error e
  | .ok .directory => .error .isADirectory
  | .ok (.file content) =>
    match String.fromUTF8? content with
    | some text => .ok text
    | none => .error .notText

/-- A folder of files, by their paths. -/
def ofFiles (files : List (String × Entry)) : Folder :=
  ⟨files.map fun (path, entry) => ((names path).filter fun n => n != "" && n != ".", entry)⟩

end Folder

end GeoScript
