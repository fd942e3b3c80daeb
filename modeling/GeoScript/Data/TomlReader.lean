import GeoScript.Data.Toml.Lexical
import GeoScript.Data.Toml.Tables

/-! # TOML documents

A document is read line by line: headers of tables, keys with values, comments and blank lines. A
key given twice, or a table opened twice, spoils the whole document, and so does a key with too many
parts or a value that lies too deep inside others.

* `readKey?`: a key, with the dots in it.
* `readValue?`: a value.
* `Data.ofToml?`: a document. -/

namespace GeoScript.Toml

/-! ### Keys -/

/-- A character of a key without quotation marks. -/
def isBareKeyPart (c : Char) : Bool := c.isAlphanum || c == '_' || c == '-'

/-- A key without dots, and what follows it. -/
def readSimpleKey? (cs : List Char) : Option (String × List Char) :=
  let bare := cs.takeWhile isBareKeyPart
  if bare.isEmpty then (readShort? cs).map fun (s, rest) => (String.ofList s, rest)
  else some (String.ofList bare, cs.dropWhile isBareKeyPart)

/-- The most parts of a key. -/
def mostParts : Nat := 79

/-- A key of so many parts at most, with the keys before its dots, and what follows it. Blanks may
surround every part. -/
def readParts? : Nat → List Char → Option ((List String × String) × List Char)
  | 0, _ => none
  | more + 1, cs => do
    let (key, rest) ← readSimpleKey? (skipGap cs)
    match skipGap rest with
    | '.' :: rest =>
      let ((path, last), rest) ← readParts? more rest
      return ((key :: path, last), rest)
    | rest => return (([], key), rest)

/-- A key with the keys before its dots, and what follows it. -/
def readKey? (cs : List Char) : Option ((List String × String) × List Char) :=
  readParts? mostParts cs

/-! ### Values -/

/-- The most lists and tables in braces that lie inside each other. -/
def mostLevels : Nat := 79

mutual

/-- A value with so many levels at most, and what follows it. `fuel` bounds the number of parts. -/
def readValue? (fuel levels : Nat) (cs : List Char) : Option (Data × List Char) :=
  match fuel with
  | 0 => none
  | fuel + 1 =>
    match cs, levels with
    | '[' :: _, 0 | '\x7b' :: _, 0 => none
    | '[' :: rest, levels + 1 =>
      (readItems? fuel levels (skipFiller false rest)).map fun (ds, rest) => (.list ds, rest)
    | '\x7b' :: rest, levels + 1 =>
      match skipGap rest with
      | '\x7d' :: rest => some (.record [], rest)
      | rest =>
        (readPairs? fuel levels [] rest).map fun (es, rest) =>
          (.record (Entries.toFields es), rest)
    | '"' :: _, _ | '\x27' :: _, _ =>
      (readText? cs).map fun (s, rest) => (.text (String.ofList s), rest)
    | cs, _ => readScalar? cs

/-- The items of a list up to its closing bracket. The last one may have a comma after it. -/
def readItems? (fuel levels : Nat) (cs : List Char) : Option (List Data × List Char) :=
  match fuel with
  | 0 => none
  | fuel + 1 =>
    match cs with
    | ']' :: rest => some ([], rest)
    | cs => do
      let (d, rest) ← readValue? fuel levels cs
      match skipFiller false rest with
      | ']' :: rest => return ([d], rest)
      | ',' :: rest =>
        let (ds, rest) ← readItems? fuel levels (skipFiller false rest)
        return (d :: ds, rest)
      | _ => none

/-- The keys and values of a table on one line up to its closing brace, after those read before. -/
def readPairs? (fuel levels : Nat) (es : Entries) (cs : List Char) :
    Option (Entries × List Char) :=
  match fuel with
  | 0 => none
  | fuel + 1 => do
    let ((dots, key), rest) ← readKey? cs
    match rest with
    | '=' :: rest =>
      let (d, rest) ← readValue? fuel levels (skipGap rest)
      let es ← Entries.insert? dots key d .header es
      match skipGap rest with
      | '\x7d' :: rest => return (es, rest)
      | ',' :: rest => readPairs? fuel levels es rest
      | _ => none
    | _ => none

end

/-! ### Documents -/

/-- What has been read of a document: its tables, and the path of the last header. -/
structure Document where
  entries : Entries
  path : List String

/-- A header of a table, or of a table in a row, after its opening bracket. -/
def Document.readHeader? (doc : Document) (cs : List Char) : Option (Document × List Char) :=
  match cs with
  | '[' :: rest => do
    let ((path, key), rest) ← readKey? rest
    match rest with
    | ']' :: ']' :: rest =>
      let entries ← Entries.openItem? path key .header doc.entries
      return ({ entries, path := path ++ [key] }, ← lineEnd? rest)
    | _ => none
  | cs => do
    let ((path, key), rest) ← readKey? cs
    match rest with
    | ']' :: rest =>
      let entries ← Entries.openTable? path key .header doc.entries
      return ({ entries, path := path ++ [key] }, ← lineEnd? rest)
    | _ => none

/-- A key with its value. -/
def Document.readPair? (doc : Document) (cs : List Char) : Option (Document × List Char) := do
  let ((dots, key), rest) ← readKey? cs
  match rest with
  | '=' :: rest =>
    let (d, rest) ← readValue? (2 * rest.length + 1) mostLevels (skipGap rest)
    let entries ←
      Entries.within? .passed (Entries.insert? dots key d) doc.path .header doc.entries
    return ({ doc with entries }, ← lineEnd? rest)
  | _ => none

/-- The rest of a document. -/
def Document.readLines? : Nat → Document → List Char → Option Document
  | 0, _, _ => none
  | fuel + 1, doc, cs =>
    match skipGap cs with
    | [] => some doc
    | '[' :: rest => do
      let (doc, rest) ← doc.readHeader? rest
      doc.readLines? fuel rest
    | c :: rest =>
      if c == '#' || (newline? (c :: rest)).isSome then do
        doc.readLines? fuel (← lineEnd? (c :: rest))
      else do
        let (doc, rest) ← doc.readPair? (c :: rest)
        doc.readLines? fuel rest

/-- Drops the mark that some texts start with. -/
def withoutMark : List Char → List Char
  | '\ufeff' :: rest => rest
  | cs => cs

end Toml

/-- The data of a TOML document. -/
def Data.ofToml? (text : String) : Option Data :=
  let cs := Toml.withoutMark text.toList
  (Toml.Document.readLines? (cs.length + 1) { entries := [], path := [] } cs).map fun doc =>
    .record (Toml.Entries.toFields doc.entries)

end GeoScript
