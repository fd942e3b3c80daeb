import GeoScript.Data.JsonReader

/-! # TOML: strings, numbers, dates and blanks

The parts of a TOML text that know nothing of tables. Readers take the text up to its end and answer
with what they read and what follows it.

* `readText?`: a string of any of the four kinds, from its opening quotation mark on.
* `readScalar?`: a truth value, a number or a date.
* `skipFiller`: blanks, newlines and comments inside brackets. -/

namespace GeoScript.Toml

-- Powers with an exponent of type `Nat` are those of the core library.
attribute [local instance (high)] instPowNat

/-- A space or a tab. -/
def isGap (c : Char) : Bool := c == ' ' || c == '\t'

/-- The text from the first character on that is no space or tab. -/
def skipGap (cs : List Char) : List Char := cs.dropWhile isGap

/-- A character that may stand in a comment or a string: no control character but the tab. -/
def isPrintable (c : Char) : Bool := c == '\t' || (0x20 ≤ c.toNat && c.toNat != 0x7F)

/-- What follows a newline, if the text starts with one. -/
def newline? : List Char → Option (List Char)
  | '\n' :: rest | '\r' :: '\n' :: rest => some rest
  | _ => none

/-- What follows the end of a line: blanks, perhaps a comment, and a newline or the text's end. -/
def lineEnd? (cs : List Char) : Option (List Char) :=
  let rest := match skipGap cs with
    | '#' :: rest => rest.dropWhile isPrintable
    | rest => rest
  match rest with
  | [] => some []
  | rest => newline? rest

/-- Skips blanks, newlines and comments; `inComment` says where the text starts. -/
def skipFiller (inComment : Bool) : List Char → List Char
  | '\n' :: rest => skipFiller false rest
  | '\r' :: '\n' :: rest => skipFiller false rest
  | c :: rest =>
    if inComment then if isPrintable c then skipFiller true rest else c :: rest
    else if isGap c then skipFiller false rest
    else if c == '#' then skipFiller true rest
    else c :: rest
  | [] => []

/-! ### Strings -/

/-- The number with some digits in base sixteen. -/
def hexNumber? (digits : List Char) : Option Nat :=
  digits.foldlM (fun n c => (Json.hexValue? c).map (16 * n + ·)) 0

/-- The character with a number, if there is one. -/
def scalar? (n : Nat) : Option Char := if n.isValidChar then some (Char.ofNat n) else none

/-- What stands after a backslash: the character meant, and what follows it. -/
def readEscape? : List Char → Option (Char × List Char)
  | 'b' :: rest => some ('\x08', rest)
  | 't' :: rest => some ('\t', rest)
  | 'n' :: rest => some ('\n', rest)
  | 'f' :: rest => some ('\x0c', rest)
  | 'r' :: rest => some ('\r', rest)
  | '"' :: rest => some ('"', rest)
  | '\\' :: rest => some ('\\', rest)
  | 'u' :: a :: b :: c :: d :: rest => do
    return (← scalar? (← hexNumber? [a, b, c, d]), rest)
  | 'U' :: a :: b :: c :: d :: e :: f :: g :: h :: rest => do
    return (← scalar? (← hexNumber? [a, b, c, d, e, f, g, h]), rest)
  | _ => none

/-- The content of a string on one line, and what follows its closing mark. Only in strings between
double marks does the backslash escape. -/
def readLine? (mark : Char) : Nat → List Char → Option (List Char × List Char)
  | 0, _ | _, [] => none
  | fuel + 1, c :: rest =>
    if c == mark then some ([], rest)
    else if c == '\\' && mark == '"' then do
      let (c, rest) ← readEscape? rest
      let (s, rest) ← readLine? mark fuel rest
      return (c :: s, rest)
    else if isPrintable c then
      (readLine? mark fuel rest).map fun (s, rest) => (c :: s, rest)
    else none

/-- Skips blanks and newlines. -/
def skipBlankLines : List Char → List Char
  | '\n' :: rest => skipBlankLines rest
  | '\r' :: '\n' :: rest => skipBlankLines rest
  | c :: rest => if isGap c then skipBlankLines rest else c :: rest
  | [] => []

/-- What follows a backslash at the end of a line: the text from the next character on that is
neither blank nor newline. -/
def continuation? (cs : List Char) : Option (List Char) :=
  (newline? (skipGap cs)).map skipBlankLines

/-- The content of a string over several lines, and what follows its three closing marks. Up to two
marks before these belong to the content. -/
def readLines? (mark : Char) : Nat → List Char → Option (List Char × List Char)
  | 0, _ | _, [] => none
  | fuel + 1, c :: rest =>
    let cs := c :: rest
    let marks := (cs.take 5).takeWhile (· == mark)
    if 3 ≤ marks.length then some (marks.drop 3, cs.drop marks.length)
    else if c == '\\' && mark == '"' then
      match continuation? rest with
      | some rest => readLines? mark fuel rest
      | none => do
        let (c, rest) ← readEscape? rest
        let (s, rest) ← readLines? mark fuel rest
        return (c :: s, rest)
    else match newline? cs with
      | some rest => (readLines? mark fuel rest).map fun (s, rest) => ('\n' :: s, rest)
      | none =>
        if isPrintable c then
          (readLines? mark fuel rest).map fun (s, rest) => (c :: s, rest)
        else none

/-- A string on one line, from its opening mark on. -/
def readShort? : List Char → Option (List Char × List Char)
  | [] => none
  | mark :: rest =>
    if mark == '"' || mark == '\x27' then readLine? mark (rest.length + 1) rest else none

/-- A string, from its opening mark or marks on. A newline right after three opening marks does not
belong to the content. -/
def readText? (cs : List Char) : Option (List Char × List Char) :=
  match cs with
  | a :: b :: c :: rest =>
    if a == b && b == c && (a == '"' || a == '\x27') then
      let body := (newline? rest).getD rest
      readLines? a (body.length + 1) body
    else readShort? cs
  | _ => readShort? cs

/-! ### Numbers -/

/-- The digits of a number without the underscores between them. -/
def withoutUnderscores? (isDigit : Char → Bool) : List Char → Option (List Char)
  | [] => none
  | [c] => if isDigit c then some [c] else none
  | c :: '_' :: rest =>
    if isDigit c then (withoutUnderscores? isDigit rest).map (c :: ·) else none
  | c :: rest => if isDigit c then (withoutUnderscores? isDigit rest).map (c :: ·) else none

/-- The number with some digits in a base, with underscores between them. -/
def readBase? (base : Nat) (cs : List Char) : Option Nat := do
  let digits ← withoutUnderscores? (fun c => (Json.hexValue? c).any (· < base)) cs
  digits.foldlM (fun n c => (Json.hexValue? c).map (base * n + ·)) 0

/-- Decimal digits with underscores between them, and no needless zero in front. -/
def readDecimal? (cs : List Char) : Option (List Char) := do
  let digits ← withoutUnderscores? Char.isDigit cs
  if digits.length == 1 || digits.head? != some '0' then some digits else none

/-- The whole number that is all of `cs`, if it fits into 64 bits. -/
def readInteger? (cs : List Char) : Option Data := do
  let n ← match cs with
    | '0' :: 'x' :: rest => (readBase? 16 rest).map Int.ofNat
    | '0' :: 'o' :: rest => (readBase? 8 rest).map Int.ofNat
    | '0' :: 'b' :: rest => (readBase? 2 rest).map Int.ofNat
    | cs =>
      let (negative, unsigned) := Decimal.splitSign cs
      (readDecimal? unsigned).map fun digits =>
        if negative then -(Decimal.ofDigits digits : Int) else Decimal.ofDigits digits
  if fitsInt64 n then some (.int n) else none

/-- The floating-point number that is all of `cs`: digits, then a fraction, an exponent or both.
Digits above the greatest number are refused, those below the least stand for negative infinity. -/
def readFloat? (cs : List Char) : Option Data := do
  let (negative, unsigned) := Decimal.splitSign cs
  if unsigned = ['i', 'n', 'f'] then
    return .float (Decimal.ofMagnitude negative Decimal.infinite)
  if unsigned = ['n', 'a', 'n'] then
    return .float (Decimal.ofMagnitude false (Decimal.infinite + 2 ^ (51 : Nat)))
  let isPart := fun c => c.isDigit || c == '_'
  let whole ← readDecimal? (unsigned.takeWhile isPart)
  let rest := unsigned.dropWhile isPart
  let (fraction, rest) ← match rest with
    | '.' :: rest =>
      (withoutUnderscores? Char.isDigit (rest.takeWhile isPart)).map fun digits =>
        (some digits, rest.dropWhile isPart)
    | rest => some (none, rest)
  let exponent ← match rest with
    | [] => some none
    | c :: rest =>
      if c == 'e' || c == 'E' then
        let (negative, digits) := Decimal.splitSign rest
        (withoutUnderscores? Char.isDigit digits).map fun digits => some (negative, digits)
      else none
  let x := Decimal.Literal.toFloat { negative, whole, fraction, exponent }
  if fraction.isNone && exponent.isNone then none
  else if Decimal.magnitude x == Decimal.infinite && !negative then none
  else return .float x

/-! ### Dates -/

/-- The number that is all of `cs`, with so many digits and not above a bound. -/
def readField? (width bound : Nat) (cs : List Char) : Option Nat :=
  if cs.length == width && cs.all Char.isDigit && Decimal.ofDigits cs ≤ bound then
    some (Decimal.ofDigits cs)
  else none

/-- The days of a month. -/
def daysOf (year month : Nat) : Nat :=
  if month == 2 then if year % 4 == 0 && (year % 100 != 0 || year % 400 == 0) then 29 else 28
  else if month == 4 || month == 6 || month == 9 || month == 11 then 30
  else 31

/-- Whether `cs` is a date, `year-month-day`. -/
def isDate (cs : List Char) : Bool :=
  match readField? 4 9999 (cs.take 4), readField? 2 12 ((cs.drop 5).take 2) with
  | some year, some month =>
    match readField? 2 (daysOf year month) (cs.drop 8) with
    | some day => cs[4]? == some '-' && cs[7]? == some '-' && 1 ≤ month && 1 ≤ day
    | none => false
  | _, _ => false

/-- Whether `cs` are the hour and the minute of a time, `hour:minute`. -/
def isHourMinute (cs : List Char) : Bool :=
  (readField? 2 23 (cs.take 2)).isSome && cs[2]? == some ':' && (readField? 2 59 (cs.drop 3)).isSome

/-- Whether `cs` is a time with seconds and perhaps a fraction of them. -/
def isTime (cs : List Char) : Bool :=
  isHourMinute (cs.take 5) && cs[5]? == some ':' && (readField? 2 60 ((cs.drop 6).take 2)).isSome &&
    match cs.drop 8 with
    | [] => true
    | '.' :: digits => !digits.isEmpty && digits.all Char.isDigit
    | _ => false

/-- Whether `cs` is a time with or without an offset. -/
def isTimeWithOffset (cs : List Char) : Bool :=
  let time := cs.takeWhile fun c => c.isDigit || c == ':' || c == '.'
  isTime time &&
    match cs.drop time.length with
    | [] => true
    | [c] => c == 'Z' || c == 'z'
    | sign :: offset => (sign == '+' || sign == '-') && isHourMinute offset

/-- Whether `cs` is a date, a time, or both with a letter or a space between them. -/
def isDateOrTime (cs : List Char) : Bool :=
  isDate cs || isTime cs ||
    isDate (cs.take 10) && (cs[10]?).any (fun c => c == 'T' || c == 't' || c == ' ') &&
      isTimeWithOffset (cs.drop 11)

/-! ### Scalars -/

/-- A character of a number, a date or a word. -/
def isScalarPart (c : Char) : Bool :=
  c.isAlphanum || c == '+' || c == '-' || c == '_' || c == '.' || c == ':'

/-- Splits a number, a date or a word off a text. A date and a time may have one space between
them. -/
def splitScalar (cs : List Char) : List Char × List Char :=
  let word := cs.takeWhile isScalarPart
  match cs.dropWhile isScalarPart with
  | ' ' :: c :: rest =>
    if isDate word && c.isDigit then
      (word ++ ' ' :: (c :: rest).takeWhile isScalarPart, (c :: rest).dropWhile isScalarPart)
    else (word, ' ' :: c :: rest)
  | rest => (word, rest)

/-- A truth value, a number or a date, and what follows it. -/
def readScalar? (cs : List Char) : Option (Data × List Char) :=
  let (word, rest) := splitScalar cs
  if word = ['t', 'r', 'u', 'e'] then some (.bool true, rest)
  else if word = ['f', 'a', 'l', 's', 'e'] then some (.bool false, rest)
  else if isDateOrTime word then some (.date, rest)
  else ((readInteger? word).or (readFloat? word)).map fun d => (d, rest)

end GeoScript.Toml
