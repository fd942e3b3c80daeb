/-! # Binary floating-point patterns as whole numbers

The non-negative finite numbers of the 64-bit format are numbered upwards by their bit patterns:
`0` is zero, `1` the smallest number, and the pattern `infinite` comes after the largest one. Every
one of them is a whole multiple of `2 ^ -1074`, so its size is the natural number `units p`, and a
real number that is to be rounded is a quotient of two natural numbers in the same unit.

* `units`: the size of a pattern in units of `2 ^ -1074`.
* `nearest`: the pattern nearest to `num / den` units; of two equally near ones the even one.
* `ofMagnitude`, `magnitude`, `isNegative`: between patterns and floating-point numbers.
* `nearest_units`: a size that belongs to a pattern is rounded to that pattern. -/

namespace GeoScript.Decimal

-- Powers with an exponent of type `Nat` are those of the core library.
attribute [local instance (high)] instPowNat

/-- The pattern after that of the largest finite number. -/
def infinite : Nat := 2047 * 2 ^ (52 : Nat)

/-- The size of a pattern, in units of `2 ^ -1074`. Patterns below `2 ^ 53` are their own size; from
there on each block of `2 ^ 52` patterns is twice as coarse as the one before. -/
def units (p : Nat) : Nat :=
  if p < 2 ^ (52 : Nat) then p
  else (2 ^ (52 : Nat) + p % 2 ^ (52 : Nat)) * 2 ^ (p / 2 ^ (52 : Nat) - 1)

/-- The quotient rounded to a whole number, a half to the even neighbour. -/
def roundHalfEven (num den : Nat) : Nat :=
  let q := num / den
  let r := num % den
  if 2 * r < den then q else if den < 2 * r then q + 1 else q + q % 2

/-- The pattern whose size is nearest to `num / den` units, the even one of two equally near. A
quotient of `53 + s` bits loses its last `s` bits, which is the number of its block. -/
def nearest (num den : Nat) : Nat :=
  let s := (num / den).log2 - 52
  min infinite (s * 2 ^ (52 : Nat) + roundHalfEven num (den * 2 ^ s))

/-- The floating-point number with a sign and a pattern. -/
def ofMagnitude (negative : Bool) (p : Nat) : Float :=
  Float.ofBits (UInt64.ofNat (if negative then 2 ^ (63 : Nat) + p else p))

/-- The pattern of a floating-point number, its sign left out. -/
def magnitude (x : Float) : Nat := x.toBits.toNat % 2 ^ (63 : Nat)

/-- Whether the sign bit is set, as in `-0.0`. -/
def isNegative (x : Float) : Bool := 2 ^ (63 : Nat) ≤ x.toBits.toNat

/-! ### Sizes are rounded to themselves -/

theorem roundHalfEven_mul (m : Nat) {d : Nat} (hd : 0 < d) : roundHalfEven (m * d) d = m := by
  simp [roundHalfEven, Nat.mul_mod_left, Nat.mul_div_cancel _ hd, hd]

theorem log2_mul_two_pow {m s : Nat} (hm : 2 ^ (52 : Nat) ≤ m) (hlt : m < 2 ^ (53 : Nat)) :
    (m * 2 ^ s).log2 = 52 + s := by
  have hpos : m * 2 ^ s ≠ 0 := by
    have := Nat.two_pow_pos s
    have : 0 < m * 2 ^ s := Nat.mul_pos (by omega) this
    omega
  rw [Nat.log2_eq_iff hpos]
  constructor
  · rw [Nat.pow_add]; exact Nat.mul_le_mul_right _ hm
  · rw [show 52 + s + 1 = 53 + s by omega, Nat.pow_add]
    exact Nat.mul_lt_mul_of_pos_right hlt (Nat.two_pow_pos s)

/-- **A size that belongs to a pattern is rounded to that pattern.** -/
theorem nearest_units {p : Nat} (hp : p < infinite) : nearest (units p) 1 = p := by
  unfold nearest units
  by_cases h : p < 2 ^ 52
  · have hlog : p.log2 - 52 = 0 := by
      by_cases h0 : p = 0
      · simp [h0]
      · have := (Nat.log2_lt h0).2 h
        omega
    have := roundHalfEven_mul p Nat.one_pos
    simp only [if_pos h, Nat.div_one, hlog, Nat.zero_mul, Nat.pow_zero, Nat.mul_one,
      Nat.zero_add] at this ⊢
    rw [this]; exact Nat.min_eq_right (Nat.le_of_lt hp)
  · have hb : 1 ≤ p / 2 ^ 52 := by omega
    have hm : p % 2 ^ 52 < 2 ^ 52 := Nat.mod_lt _ (Nat.two_pow_pos 52)
    have hlog : ((2 ^ 52 + p % 2 ^ 52) * 2 ^ (p / 2 ^ 52 - 1)).log2 - 52 = p / 2 ^ 52 - 1 := by
      rw [log2_mul_two_pow (by omega) (by omega)]; omega
    have := roundHalfEven_mul (2 ^ 52 + p % 2 ^ 52) (Nat.two_pow_pos (p / 2 ^ 52 - 1))
    simp only [if_neg h, Nat.div_one, hlog, Nat.one_mul, this]
    have hsplit : (p / 2 ^ 52 - 1) * 2 ^ 52 + (2 ^ 52 + p % 2 ^ 52) = p := by omega
    rw [hsplit]; exact Nat.min_eq_right (Nat.le_of_lt hp)

end GeoScript.Decimal
