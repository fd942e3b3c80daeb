import GeoScript.Decimal.Shortest

/-! # Writing floating-point numbers

A finite number is written with the fewest digits that read back, either positionally or with an
exponent, and always so that it differs from a whole number: `1.0`, not `1`. What distinguishes two
ways of writing is a `FloatStyle`.

* `display`: the style of messages and of rendered expressions.
* `interchange`: the style of data texts, which have no infinities.
* `displayText`, `interchangeText`: a number in either style. -/

namespace GeoScript.Decimal

/-- The decisions of one way of writing finite numbers. -/
structure FloatStyle where
  /-- Which of two equally near decimals is written. -/
  tie : Tie
  /-- The smallest position of the point, in `0.d₁d₂… * 10 ^ point`, that is still written out. -/
  leastPoint : Int
  /-- The largest such position. -/
  greatestPoint : Int
  /-- Whether a positive exponent gets a sign. -/
  plusSign : Bool

/-- Positional from `1e-4` to below `1e16`, exponents without a plus sign, ties upwards. -/
def FloatStyle.display : FloatStyle := ⟨.up, -3, 16, false⟩

/-- Positional from `1e-5` to below `1e16`, exponents with a sign, ties to the even digit. -/
def FloatStyle.interchange : FloatStyle := ⟨.even, -4, 16, true⟩

/-- The digits with a point among them, after them or before them. -/
def Numeral.positional (d : Numeral) : List Char :=
  if d.point ≤ 0 then
    ['0', '.'] ++ List.replicate (-d.point).toNat '0' ++ d.digits
  else if d.point < d.digits.length then
    d.digits.take d.point.toNat ++ '.' :: d.digits.drop d.point.toNat
  else
    d.digits ++ List.replicate (d.point.toNat - d.digits.length) '0' ++ ['.', '0']

/-- One digit before the point, and a power of ten. -/
def Numeral.scientific (d : Numeral) (plusSign : Bool) : List Char :=
  let e := d.point - 1
  let fraction := d.digits.drop 1
  d.digits.take 1 ++ (if fraction.isEmpty then [] else '.' :: fraction) ++ ['e'] ++
    (if e < 0 then ['-'] else if plusSign then ['+'] else []) ++ Nat.toDigits 10 e.natAbs

/-- A numeral in the style's choice of the two notations. -/
def FloatStyle.writeNumeral (style : FloatStyle) (d : Numeral) : List Char :=
  if style.leastPoint ≤ d.point ∧ d.point ≤ style.greatestPoint then d.positional
  else d.scientific style.plusSign

/-- The finite number with the pattern `p`. -/
def FloatStyle.write (style : FloatStyle) (negative : Bool) (p : Nat) : List Char :=
  (if negative then ['-'] else []) ++
    if p = 0 then ['0', '.', '0'] else style.writeNumeral (shortest style.tie p)

/-- Whether a number is neither infinite nor undefined. -/
def isFinite (x : Float) : Bool := magnitude x < infinite

/-- A number in messages and rendered expressions. -/
def displayText (x : Float) : List Char :=
  if isFinite x then FloatStyle.display.write (isNegative x) (magnitude x)
  else if magnitude x = infinite then if isNegative x then ['-', 'i', 'n', 'f'] else ['i', 'n', 'f']
  else ['N', 'a', 'N']

/-- A finite number in data texts, which write every other number as `null`. -/
def interchangeText? (x : Float) : Option (List Char) :=
  if isFinite x then some (FloatStyle.interchange.write (isNegative x) (magnitude x)) else none

end GeoScript.Decimal
