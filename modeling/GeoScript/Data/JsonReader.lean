import GeoScript.Data.Json

/-! # Data texts: reading

A JSON text is read into data, with its fields in order and repeated ones kept. Whole numbers that
fit into 64 bits, with or without a sign, stay whole; every other number is read as a floating-point
number, negative zero among them. Strings hold no lone surrogates, and nothing follows the data but
blanks.

* `readString?`: the rest of a string after its opening quotation mark.
* `readValue?`, `Data.ofJson?`: data. -/

namespace GeoScript

-- Powers with an exponent of type `Nat` are those of the core library.
attribute [local instance (high)] instPowNat

namespace Json

/-- The four characters that may stand between the parts of a JSON text. -/
def isSpace (c : Char) : Bool := c == ' ' || c == '\n' || c == '\t' || c == '\r'

/-- The text from the first character on that is no space. -/
def skipSpaces (cs : List Char) : List Char := cs.dropWhile isSpace

/-! ### Strings -/

/-- The value of a digit in base sixteen. -/
def hexValue? (c : Char) : Option Nat :=
  if c.isDigit then some (c.toNat - 48)
  else if 'a' ≤ c ∧ c ≤ 'f' then some (c.toNat - 87)
  else if 'A' ≤ c ∧ c ≤ 'F' then some (c.toNat - 55)
  else none

/-- The number with four digits in base sixteen. -/
def hexUnit? (a b c d : Char) : Option Nat := do
  return ((← hexValue? a) * 16 + (← hexValue? b)) * 256 + (← hexValue? c) * 16 + (← hexValue? d)

/-- The character that a letter after a backslash stands for. -/
def letterEscape? : Char → Option Char
  | '"' => some '"'
  | '\\' => some '\\'
  | '/' => some '/'
  | 'b' => some '\x08'
  | 'f' => some '\x0c'
  | 'n' => some '\n'
  | 'r' => some '\r'
  | 't' => some '\t'
  | _ => none

/-- Whether a number is the first half of a surrogate pair. -/
def isHighSurrogate (n : Nat) : Bool := 0xD800 ≤ n && n < 0xDC00

/-- Whether a number is the second half of a surrogate pair. -/
def isLowSurrogate (n : Nat) : Bool := 0xDC00 ≤ n && n < 0xE000

/-- The content of a string up to its closing quotation mark, and what follows it. -/
def readString? : List Char → Option (List Char × List Char)
  | [] => none
  | '"' :: rest => some ([], rest)
  | '\\' :: 'u' :: a :: b :: c :: d :: '\\' :: 'u' :: e :: f :: g :: h :: rest => do
    let high ← hexUnit? a b c d
    if isHighSurrogate high then
      let low ← hexUnit? e f g h
      if isLowSurrogate low then
        let (s, rest) ← readString? rest
        return (Char.ofNat (0x10000 + (high - 0xD800) * 0x400 + (low - 0xDC00)) :: s, rest)
      else none
    else if isLowSurrogate high then none
    else
      let (s, rest) ← readString? ('\\' :: 'u' :: e :: f :: g :: h :: rest)
      return (Char.ofNat high :: s, rest)
  | '\\' :: 'u' :: a :: b :: c :: d :: rest => do
    let unit ← hexUnit? a b c d
    if isHighSurrogate unit || isLowSurrogate unit then none
    else
      let (s, rest) ← readString? rest
      return (Char.ofNat unit :: s, rest)
  | '\\' :: c :: rest => do
    let c ← letterEscape? c
    let (s, rest) ← readString? rest
    return (c :: s, rest)
  | c :: rest =>
    if c.toNat < 0x20 || c == '\\' then none
    else (readString? rest).map fun (s, rest) => (c :: s, rest)

/-! ### Numbers -/

/-- A character that can stand in a number. -/
def isNumberPart (c : Char) : Bool :=
  c.isDigit || c == '-' || c == '+' || c == '.' || c == 'e' || c == 'E'

/-- Whether a literal is a JSON number: no plus sign, no needless zero in front, and digits on both
sides of a point. -/
def isJsonLiteral (cs : List Char) (l : Decimal.Literal) : Bool :=
  cs.head? != some '+' && !l.whole.isEmpty && (l.whole.length == 1 || l.whole.head? != some '0') &&
    l.fraction != some []

/-- Whether a whole number is kept as one: it fits into 64 bits, and it is not negative zero. -/
def isKeptWhole (l : Decimal.Literal) (n : Int) : Bool :=
  -(2 ^ (63 : Nat)) ≤ n && n < 2 ^ (64 : Nat) && !(l.negative && n == 0)

/-- The number that is all of `cs`. -/
def readNumber? (cs : List Char) : Option Data := do
  let l ← Decimal.Literal.read? cs
  if isJsonLiteral cs l then
    match l.whole? with
    | some n => return if isKeptWhole l n then .int n else .float l.toFloat
    | none => if Decimal.isFinite l.toFloat then return .float l.toFloat else none
  else none

/-! ### Data -/

mutual

/-- Data, and what follows them. `fuel` bounds the depth and the number of parts. -/
def readValue? (fuel : Nat) (cs : List Char) : Option (Data × List Char) :=
  match fuel with
  | 0 => none
  | fuel + 1 =>
    match skipSpaces cs with
    | 'n' :: 'u' :: 'l' :: 'l' :: rest => some (.null, rest)
    | 't' :: 'r' :: 'u' :: 'e' :: rest => some (.bool true, rest)
    | 'f' :: 'a' :: 'l' :: 's' :: 'e' :: rest => some (.bool false, rest)
    | '"' :: rest => (readString? rest).map fun (s, rest) => (.text (String.ofList s), rest)
    | '[' :: rest =>
      match skipSpaces rest with
      | ']' :: rest => some (.list [], rest)
      | rest => do
        let (d, rest) ← readValue? fuel rest
        let (ds, rest) ← readMoreItems? fuel rest
        return (.list (d :: ds), rest)
    | '\x7b' :: rest =>
      match skipSpaces rest with
      | '\x7d' :: rest => some (.record [], rest)
      | rest => do
        let (field, rest) ← readField? fuel rest
        let (fields, rest) ← readMoreFields? fuel rest
        return (.record (field :: fields), rest)
    | cs => (readNumber? (cs.takeWhile isNumberPart)).map fun d => (d, cs.dropWhile isNumberPart)

/-- Further items of a list, each after a comma, and the closing bracket. -/
def readMoreItems? (fuel : Nat) (cs : List Char) : Option (List Data × List Char) :=
  match fuel with
  | 0 => none
  | fuel + 1 =>
    match skipSpaces cs with
    | ']' :: rest => some ([], rest)
    | ',' :: rest => do
      let (d, rest) ← readValue? fuel rest
      let (ds, rest) ← readMoreItems? fuel rest
      return (d :: ds, rest)
    | _ => none

/-- A field of a record. -/
def readField? (fuel : Nat) (cs : List Char) : Option ((String × Data) × List Char) :=
  match fuel with
  | 0 => none
  | fuel + 1 =>
    match skipSpaces cs with
    | '"' :: rest => do
      let (name, rest) ← readString? rest
      match skipSpaces rest with
      | ':' :: rest =>
        let (d, rest) ← readValue? fuel rest
        return ((String.ofList name, d), rest)
      | _ => none
    | _ => none

/-- Further fields of a record, each after a comma, and the closing brace. -/
def readMoreFields? (fuel : Nat) (cs : List Char) : Option (List (String × Data) × List Char) :=
  match fuel with
  | 0 => none
  | fuel + 1 =>
    match skipSpaces cs with
    | '\x7d' :: rest => some ([], rest)
    | ',' :: rest => do
      let (field, rest) ← readField? fuel rest
      let (fields, rest) ← readMoreFields? fuel rest
      return (field :: fields, rest)
    | _ => none

end

end Json

/-- The data that are all of a JSON text. -/
def Data.ofJson? (text : String) : Option Data :=
  let cs := text.toList
  match Json.readValue? (2 * cs.length + 1) cs with
  | some (d, rest) => if (Json.skipSpaces rest).isEmpty then some d else none
  | none => none

end GeoScript
