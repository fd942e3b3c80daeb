import GeoScript.Data.Basic

/-! # Data texts: writing

Data are written as JSON without any blanks. In strings only the quotation mark, the backslash and
the control characters are escaped, the five common ones by a letter. What has no JSON form, an
infinite or undefined number, is written as `null`.

* `quoted`: a string.
* `Data.json`: any data. -/

namespace GeoScript

/-- A digit of a number in base sixteen. -/
def hexDigit (n : Nat) : Char := Nat.digitChar (n % 16)

/-- A character inside a string. -/
def escaped (c : Char) : List Char :=
  if c = '"' then ['\\', '"']
  else if c = '\\' then ['\\', '\\']
  else if c = '\x08' then ['\\', 'b']
  else if c = '\x0c' then ['\\', 'f']
  else if c = '\n' then ['\\', 'n']
  else if c = '\r' then ['\\', 'r']
  else if c = '\t' then ['\\', 't']
  else if c.toNat < 0x20 then
    ['\\', 'u', '0', '0', hexDigit (c.toNat / 16), hexDigit c.toNat]
  else [c]

/-- A string with its quotation marks. -/
def quoted (s : String) : List Char := '"' :: (s.toList.flatMap escaped ++ ['"'])

mutual

/-- Data as JSON. -/
def Data.json : Data → List Char
  | .null | .date => ['n', 'u', 'l', 'l']
  | .bool true => ['t', 'r', 'u', 'e']
  | .bool false => ['f', 'a', 'l', 's', 'e']
  | .int n => integerText n
  | .float x => (Decimal.interchangeText? x).getD ['n', 'u', 'l', 'l']
  | .text s => quoted s
  | .list items => '[' :: Data.jsonItems items
  | .record fields => '\x7b' :: Data.jsonFields fields

/-- The items of a list and its closing bracket. -/
def Data.jsonItems : List Data → List Char
  | [] => [']']
  | d :: ds => d.json ++ Data.jsonMoreItems ds

/-- Further items, each after a comma, and the closing bracket. -/
def Data.jsonMoreItems : List Data → List Char
  | [] => [']']
  | d :: ds => ',' :: (d.json ++ Data.jsonMoreItems ds)

/-- The fields of a record and its closing brace. -/
def Data.jsonFields : List (String × Data) → List Char
  | [] => ['\x7d']
  | (name, d) :: fields => quoted name ++ ':' :: (d.json ++ Data.jsonMoreFields fields)

/-- Further fields, each after a comma, and the closing brace. -/
def Data.jsonMoreFields : List (String × Data) → List Char
  | [] => ['\x7d']
  | (name, d) :: fields =>
    ',' :: (quoted name ++ ':' :: (d.json ++ Data.jsonMoreFields fields))

end

/-- Data as a JSON text. -/
def Data.jsonText (d : Data) : String := String.ofList d.json

end GeoScript
