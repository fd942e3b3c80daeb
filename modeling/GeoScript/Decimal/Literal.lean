import GeoScript.Decimal.Binary64

/-! # Numeric literals

A literal is an optional sign, digits with at most one point among them, and an optional exponent:
`[+-]?(D+(.D*)?|.D+)([eE][+-]?D+)?` with ASCII digits `D`. It is read completely or not at all, and
its value is rounded once, from the exact decimal.

* `Literal.read?`: the parts of a literal.
* `Literal.whole?`: its value, if it is a sign and digits.
* `Literal.toFloat`: its value as a floating-point number. -/

namespace GeoScript.Decimal

-- Powers with an exponent of type `Nat` are those of the core library.
attribute [local instance (high)] instPowNat

/-- The parts of a numeric literal. -/
structure Literal where
  negative : Bool
  /-- The digits before the point. -/
  whole : List Char
  /-- The digits after the point, if there is a point. -/
  fraction : Option (List Char)
  /-- The sign (`true` is minus) and the digits of the exponent. -/
  exponent : Option (Bool × List Char)
deriving DecidableEq

/-- Splits off a sign; `true` is minus. -/
def splitSign : List Char → Bool × List Char
  | '+' :: cs => (false, cs)
  | '-' :: cs => (true, cs)
  | cs => (false, cs)

/-- The exponent that is all of `cs`: `none` if there is no such exponent, `some none` if `cs` is
empty. -/
def readExponent? : List Char → Option (Option (Bool × List Char))
  | [] => some none
  | c :: cs =>
    let (negative, digits) := splitSign cs
    if (c == 'e' || c == 'E') && !digits.isEmpty && digits.all Char.isDigit then
      some (some (negative, digits))
    else none

/-- Splits a point and the digits after it off `cs`. -/
def splitFraction : List Char → Option (List Char) × List Char
  | '.' :: cs => (some (cs.takeWhile Char.isDigit), cs.dropWhile Char.isDigit)
  | cs => (none, cs)

/-- The literal that is all of `cs`. -/
def Literal.read? (cs : List Char) : Option Literal :=
  let (negative, unsigned) := splitSign cs
  let whole := unsigned.takeWhile Char.isDigit
  let (fraction, rest) := splitFraction (unsigned.dropWhile Char.isDigit)
  if whole.isEmpty && (fraction.getD []).isEmpty then none
  else (readExponent? rest).map fun exponent => { negative, whole, fraction, exponent }

/-- The natural number that a list of digits denotes. -/
def ofDigits (ds : List Char) : Nat := Nat.ofDigitChars 10 ds 0

/-- The integer that a literal without point and exponent denotes. -/
def Literal.whole? (l : Literal) : Option Int :=
  if l.fraction.isNone && l.exponent.isNone then
    some (if l.negative then -(ofDigits l.whole : Int) else ofDigits l.whole)
  else none

/-- The pattern nearest to `m * 10 ^ e`. A number of more than four hundred places before the point
is infinite, and one that starts more than four hundred places after it is zero. -/
def nearestDecimal (m : Nat) (e : Int) : Nat :=
  let top := (Nat.toDigits 10 m).length + e
  if m = 0 || top < -400 then 0
  else if 400 < top then infinite
  else if 0 ≤ e then nearest (m * 10 ^ e.toNat * 2 ^ (1074 : Nat)) 1
  else nearest (m * 2 ^ (1074 : Nat)) (10 ^ (-e).toNat)

/-- The exponent of ten, once the point stands after the last digit. -/
def Literal.scale (l : Literal) : Int :=
  let e : Int := match l.exponent with
    | none => 0
    | some (negative, ds) => if negative then -(ofDigits ds : Int) else ofDigits ds
  e - (l.fraction.getD []).length

/-- The value of a literal, rounded to the nearest floating-point number. -/
def Literal.toFloat (l : Literal) : Float :=
  ofMagnitude l.negative (nearestDecimal (ofDigits (l.whole ++ l.fraction.getD [])) l.scale)

end GeoScript.Decimal
