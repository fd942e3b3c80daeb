import GeoScript.Data.Basic

/-! # TOML: tables

A TOML document is built up line by line, and what a line may do depends on how the tables it passes
came about. A table that has a header of its own is closed to other headers; one that was only
passed on the way to another may still get a header; one that was made by a dotted key may be
extended by dotted keys and by headers of tables inside it. Values are closed to everything.

* `Entries.insert?`: a line `key = value`, with the dots of the key.
* `Entries.openTable?`, `openItem?`: the headers `[a.b]` and `[[a.b]]`.
* `Entries.toData`: the document as data. -/

namespace GeoScript.Toml

/-- How a table came about. -/
inductive Origin where
  /-- By a header of its own. -/
  | header
  /-- On the way of a header to a table inside it. -/
  | passed
  /-- On the way of a dotted key. -/
  | dotted
deriving DecidableEq

/-- What a key stands for. -/
inductive Item where
  | value (d : Data)
  | table (origin : Origin) (entries : List (String × Item))
  /-- Tables with the header `[[a.b]]`, the last one first. -/
  | tables (latest : List (String × Item)) (earlier : List (List (String × Item)))

/-- The keys of a table with what they stand for. -/
abbrev Entries := List (String × Item)

namespace Entries

/-- Changes what a key stands for, or gives it something to stand for. -/
def update? (es : Entries) (key : String) (change : Option Item → Option Item) : Option Entries :=
  match es with
  | [] => (change none).map fun item => [(key, item)]
  | (k, item) :: es =>
    if k = key then (change (some item)).map fun item => (k, item) :: es
    else (update? es key change).map fun es => (k, item) :: es

/-- Changes the table that a path leads to. Tables that are missing on the way are made, with the
origin `made`; on the way of a dotted key no table may have a header of its own, and of tables in
a row the last one is meant. -/
def within? (made : Origin) (change : Origin → Entries → Option Entries) :
    List String → Origin → Entries → Option Entries
  | [], origin, es => change origin es
  | key :: path, _, es =>
    update? es key fun
      | none => (within? made change path made []).map (.table made)
      | some (.value _) => none
      | some (.tables latest earlier) =>
        (within? made change path .header latest).map fun latest => .tables latest earlier
      | some (.table origin inner) =>
        if made = .dotted ∧ origin = .header then none
        else (within? made change path origin inner).map (.table origin)

/-- A new key of a table, dotted or not. A table made by dotted keys gets no keys without dots from
elsewhere, and one that was made otherwise none with dots. -/
def insert? (dots : List String) (key : String) (d : Data) : Origin → Entries → Option Entries :=
  within? .dotted
    (fun origin es =>
      if (origin == .dotted) == dots.isEmpty then none
      else update? es key fun
        | none => some (.value d)
        | some _ => none)
    dots

/-- The header of a table. -/
def openTable? (path : List String) (key : String) : Origin → Entries → Option Entries :=
  within? .passed
    (fun _ es => update? es key fun
      | none => some (.table .header [])
      | some (.table .passed inner) => some (.table .header inner)
      | some _ => none)
    path

/-- The header of a table in a row of tables. -/
def openItem? (path : List String) (key : String) : Origin → Entries → Option Entries :=
  within? .passed
    (fun _ es => update? es key fun
      | none => some (.tables [] [])
      | some (.tables latest earlier) => some (.tables [] (latest :: earlier))
      | some _ => none)
    path

end Entries

mutual

/-- What a key stands for, as data. -/
def Item.toData : Item → Data
  | .value d => d
  | .table _ entries => .record (Entries.toFields entries)
  | .tables latest earlier =>
    .list (Entries.allToData earlier [.record (Entries.toFields latest)])

/-- The keys of a table as fields. -/
def Entries.toFields : List (String × Item) → List (String × Data)
  | [] => []
  | (key, item) :: es => (key, item.toData) :: Entries.toFields es

/-- A row of tables, given from the last to the first, in front of some data. -/
def Entries.allToData : List (List (String × Item)) → List Data → List Data
  | [], after => after
  | es :: ess, after => Entries.allToData ess (.record (Entries.toFields es) :: after)

end

end GeoScript.Toml
