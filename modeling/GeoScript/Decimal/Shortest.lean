import GeoScript.Decimal.Binary64

/-! # The fewest decimal digits that read back

A pattern `p` stands for every real number that is rounded to it: the numbers from the middle
between `p - 1` and `p` to the middle between `p` and `p + 1`, both ends included iff `p` is even.
The digits written for `p` are those of the coarsest decimal grid `10 ^ g` that has a point among
these numbers; of two points the one nearer to `p`, and of two equally near points the one that
the tie rule names.

Since `units p * 2 ^ -1074 = units p * 5 ^ 1074 * 10 ^ -1074`, everything happens among the natural
numbers in units of `10 ^ -1074`, where the grid is `10 ^ j` with `j = g + 1074`.

* `Span`, `Span.of`: a size with the numbers that are rounded to it, all of them doubled.
* `Span.onGrid`: the point of one grid, if it has one.
* `shortest`: the point of the coarsest grid. -/

namespace GeoScript.Decimal

-- Powers with an exponent of type `Nat` are those of the core library.
attribute [local instance (high)] instPowNat

/-- Which of two equally near decimals is written. -/
inductive Tie where
  /-- The larger one. -/
  | up
  /-- The one with an even last digit. -/
  | even
deriving DecidableEq

/-- A size and the ends of the interval of numbers rounded to it, doubled so that they are whole. -/
structure Span where
  size : Nat
  low : Nat
  high : Nat
  closed : Bool

/-- The span of the pattern `p`, in units of `10 ^ -1074`. -/
def Span.of (p : Nat) : Span where
  size := units p * 5 ^ (1074 : Nat)
  low := (units (p - 1) + units p) * 5 ^ (1074 : Nat)
  high := (units p + units (p + 1)) * 5 ^ (1074 : Nat)
  closed := p % 2 == 0

/-- Whether a number is rounded to the span's size. -/
def Span.covers (s : Span) (n : Nat) : Bool :=
  if s.closed then s.low ≤ 2 * n && 2 * n ≤ s.high else s.low < 2 * n && 2 * n < s.high

/-- The multiple of `step` that stands for the span, as a multiple: the nearer of the two next to
the size, if both are covered, and else the covered one. -/
def Span.onGrid (s : Span) (tie : Tie) (step : Nat) : Option Nat :=
  let a := s.size / step
  match s.covers (a * step), s.covers ((a + 1) * step) with
  | false, false => none
  | true, false => some a
  | false, true => some (a + 1)
  | true, true =>
    let below := s.size - a * step
    let above := (a + 1) * step - s.size
    if below < above then some a
    else if above < below then some (a + 1)
    else match tie with
      | .up => some (a + 1)
      | .even => some (a + a % 2)

/-- The number of decimal digits. -/
def digitCount (n : Nat) : Nat := (Nat.toDigits 10 n).length

/-- The first grid with a covered point, from `10 ^ j` downwards; the size itself if there is
none. -/
def Span.descend (s : Span) (tie : Tie) : Nat → Nat × Nat
  | 0 => (s.size, 0)
  | j + 1 =>
    match s.onGrid tie (10 ^ (j + 1)) with
    | some a => (a, j + 1)
    | none => s.descend tie j

/-- A positive numeral: `0.d₁d₂… * 10 ^ point` with the digits `digits`. -/
structure Numeral where
  digits : List Char
  point : Int

/-- `a * 10 ^ e` without trailing zeros. -/
def Numeral.of (a : Nat) (e : Int) : Numeral where
  digits := ((Nat.toDigits 10 a).reverse.dropWhile (· == '0')).reverse
  point := digitCount a + e

/-- The fewest digits that read back as the positive pattern `p`. -/
def shortest (tie : Tie) (p : Nat) : Numeral :=
  let s := Span.of p
  let point := s.descend tie (digitCount s.size - 1)
  Numeral.of point.1 ((point.2 : Int) - 1074)

/-! ### What is chosen is covered -/

/-- **A point taken from a grid is rounded to the span's size.** -/
theorem Span.covers_of_onGrid {s : Span} {tie : Tie} {step a : Nat}
    (h : s.onGrid tie step = some a) : s.covers (a * step) = true := by
  unfold onGrid at h
  simp only at h
  split at h
  · cases h
  · next h1 _ => cases h; exact h1
  · next _ h2 => cases h; exact h2
  · next h1 h2 =>
    split at h
    · cases h; exact h1
    · split at h
      · cases h; exact h2
      · cases tie
        · cases h; exact h2
        · simp only [Option.some.injEq] at h
          subst h
          rcases Nat.mod_two_eq_zero_or_one (s.size / step) with h0 | h0 <;> rw [h0] <;> assumption

end GeoScript.Decimal
