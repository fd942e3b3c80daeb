import GeoScript.Decimal.FloatStyle
import GeoScript.Decimal.Literal
import GeoScript.Text.Blank

/-! # Numbers

A number is a whole number of 64 bits or a floating-point number. Whole numbers stay whole under
addition as long as their sum fits; a sum that does not fit is computed in floating point, and once
a sum is a floating-point number it stays one.

* `Number.read?`: a numeric literal between blanks; whole exactly if it has neither point nor
  exponent and fits.
* `Number.plus`: addition.
* `Number.display`: a number as it is shown in expressions and messages. -/

namespace GeoScript

-- Powers with an exponent of type `Nat` are those of the core library.
attribute [local instance (high)] instPowNat

/-- A whole or a floating-point number. -/
inductive Number where
  | int (value : Int64)
  | float (value : Float)
deriving DecidableEq

/-- Whether an integer is one of the 64-bit integers. -/
def fitsInt64 (n : Int) : Bool := -(2 ^ (63 : Nat)) ≤ n && n < 2 ^ (63 : Nat)

theorem fitsInt64_iff {n : Int} :
    fitsInt64 n = true ↔ -9223372036854775808 ≤ n ∧ n < 9223372036854775808 := by
  simp only [fitsInt64, Bool.and_eq_true, decide_eq_true_eq]
  omega

theorem fitsInt64_toInt (n : Int64) : fitsInt64 n.toInt = true := by
  have h1 := n.le_toInt
  have h2 := n.toInt_lt
  rw [fitsInt64_iff]
  omega

theorem toInt_ofInt_of_fits {n : Int} (h : fitsInt64 n = true) : (Int64.ofInt n).toInt = n := by
  rw [fitsInt64_iff] at h
  exact Int64.toInt_ofInt_of_le (by omega) (by omega)

/-- The decimal digits of an integer, after a minus sign if it is negative. -/
def integerText (n : Int) : List Char :=
  (if n < 0 then ['-'] else []) ++ Nat.toDigits 10 n.natAbs

namespace Number

/-- The whole number zero, where sums start. -/
def zero : Number := .int 0

/-- The value as a floating-point number, rounded if it has more than 53 bits. -/
def toFloat : Number → Float
  | .int n => n.toFloat
  | .float x => x

/-- The number denoted by a literal. -/
def ofLiteral (l : Decimal.Literal) : Number :=
  match l.whole? with
  | some n => if fitsInt64 n then .int (Int64.ofInt n) else .float l.toFloat
  | none => .float l.toFloat

/-- Reads a literal with blanks around it. -/
def read? (cs : List Char) : Option Number :=
  (Decimal.Literal.read? (Text.trim cs)).map ofLiteral

/-- The sum, whole if both numbers are and it fits. -/
def plus : Number → Number → Number
  | .int m, .int n =>
    let sum := m.toInt + n.toInt
    if fitsInt64 sum then .int (Int64.ofInt sum) else .float (m.toFloat + n.toFloat)
  | a, b => .float (a.toFloat + b.toFloat)

/-- A number as it is shown: whole numbers in digits, the others in the display style. -/
def display : Number → List Char
  | .int n => integerText n.toInt
  | .float x => Decimal.displayText x

/-! ### When sums stay whole -/

/-- The sum of two whole numbers is whole exactly if it fits. -/
theorem plus_int_eq_int_iff (m n k : Int64) :
    plus (.int m) (.int n) = .int k ↔
      fitsInt64 (m.toInt + n.toInt) ∧ k.toInt = m.toInt + n.toInt := by
  unfold plus
  simp only
  constructor
  · split
    · next h =>
      intro hk
      cases hk
      exact ⟨h, toInt_ofInt_of_fits h⟩
    · intro hk; cases hk
  · rintro ⟨h, hk⟩
    rw [if_pos h, ← hk, Int64.ofInt_toInt]

theorem plus_float (a : Number) (x : Float) : ∃ y, plus a (.float x) = .float y := by
  cases a <;> exact ⟨_, rfl⟩

end Number

end GeoScript
