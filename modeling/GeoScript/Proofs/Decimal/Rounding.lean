import GeoScript.Decimal.Shortest
import GeoScript.Decimal.Literal
import Mathlib.Tactic.Ring
import Mathlib.Tactic.NormNum

/-! # Rounding to a pattern

A quotient is rounded to a pattern exactly if it lies between the middles to the two neighbouring
patterns, where a middle itself counts for the even pattern only (`RoundsTo`). Away from the powers
of two the neighbours are equally far; at a power of two the lower one is only half as far, and the
quotients below the power are rounded in the block of patterns before it.

* `nearest_of_roundsTo`: `nearest` finds the pattern that a quotient is rounded to.
* `roundsTo_of_covers`: the numbers that the span of a pattern covers are rounded to it.
* `nearestDecimal_of_covers`: so the decimals that it covers are read as the pattern. -/

namespace GeoScript.Decimal

/-- The quotient `num / den`, in units of `2 ^ -1074`, is rounded to the pattern `p`. -/
def RoundsTo (num den p : Nat) : Prop :=
  (units (p - 1) + units p) * den ≤ 2 * num ∧ 2 * num ≤ (units p + units (p + 1)) * den ∧
    (p % 2 = 1 → (units (p - 1) + units p) * den ≠ 2 * num ∧
      2 * num ≠ (units p + units (p + 1)) * den)

/-! ### Rounding of a quotient -/

/-- A quotient is rounded to the whole number that it is at most a half away from, if that number
is even or the quotient no half. -/
theorem roundHalfEven_eq {num den r : Nat} (hden : 0 < den) (hlow : 2 * (r * den) ≤ 2 * num + den)
    (hhigh : 2 * num ≤ 2 * (r * den) + den)
    (hodd : r % 2 = 1 → 2 * (r * den) ≠ 2 * num + den ∧ 2 * num ≠ 2 * (r * den) + den) :
    roundHalfEven num den = r := by
  have hdiv : num / den * den + num % den = num := Nat.div_add_mod' num den
  have hrem : num % den < den := Nat.mod_lt _ hden
  have hle : num / den ≤ r := by
    by_contra hlt
    have : (r + 1) * den ≤ num / den * den := Nat.mul_le_mul_right _ (by omega)
    rw [Nat.add_mul, Nat.one_mul] at this
    omega
  have hge : r ≤ num / den + 1 := by
    by_contra hlt
    have : (num / den + 2) * den ≤ r * den := Nat.mul_le_mul_right _ (by omega)
    rw [Nat.add_mul] at this
    omega
  unfold roundHalfEven
  simp only
  obtain hr | hr : r = num / den ∨ r = num / den + 1 := by omega
  · rw [← hr] at hdiv ⊢
    split
    · rfl
    · split
      · omega
      · have := hodd
        omega
  · have hmul : r * den = num / den * den + den := by rw [hr, Nat.add_mul, Nat.one_mul]
    split
    · omega
    · split
      · exact hr.symm
      · have := hodd
        omega

theorem nearest_eq {num den b : Nat} (hden : 0 < den)
    (hlow : b = 0 ∨ 2 ^ 52 * (den * 2 ^ b) ≤ num)
    (hhigh : num < 2 ^ 53 * (den * 2 ^ b)) :
    nearest num den = min infinite (b * 2 ^ 52 + roundHalfEven num (den * 2 ^ b)) := by
  have hlog : (num / den).log2 - 52 = b := by
    have hlt : num / den < 2 ^ (53 + b) := by
      rw [Nat.div_lt_iff_lt_mul hden, Nat.pow_add]
      calc num < 2 ^ 53 * (den * 2 ^ b) := hhigh
        _ = 2 ^ 53 * 2 ^ b * den := by ring
    rcases hlow with rfl | hlow
    · have : (num / den).log2 < 53 := by
        by_cases h0 : num / den = 0
        · rw [h0]; decide
        · exact (Nat.log2_lt h0).2 hlt
      omega
    · have hge : 2 ^ (52 + b) ≤ num / den := by
        rw [Nat.le_div_iff_mul_le hden, Nat.pow_add]
        calc 2 ^ 52 * 2 ^ b * den = 2 ^ 52 * (den * 2 ^ b) := by ring
          _ ≤ num := hlow
      have hpos : num / den ≠ 0 := by
        have := Nat.two_pow_pos (52 + b)
        omega
      have h1 : (num / den).log2 < 53 + b := (Nat.log2_lt hpos).2 hlt
      have h2 : 52 + b ≤ (num / den).log2 := (Nat.le_log2 hpos).2 hge
      omega
  unfold nearest
  simp only [hlog]

/-! ### Sizes in a block of patterns -/

/-- The last pattern of a block is the first of the next, by either reckoning of the same size. -/
theorem units_block {b m : Nat} (hlow : b = 0 ∨ 2 ^ 52 ≤ m) (hhigh : m ≤ 2 ^ 53) :
    units (b * 2 ^ 52 + m) = m * 2 ^ b := by
  unfold units
  split
  · next h =>
    have hb : b = 0 := by omega
    rw [hb, Nat.zero_mul, Nat.zero_add, Nat.pow_zero, Nat.mul_one]
  · next h =>
    obtain hm | hm : 2 ^ 52 ≤ m ∧ m < 2 ^ 53 ∨ m = 2 ^ 53 := by omega
    · have h1 : (b * 2 ^ 52 + m) % 2 ^ 52 = m - 2 ^ 52 := by omega
      have h2 : (b * 2 ^ 52 + m) / 2 ^ 52 - 1 = b := by omega
      rw [h1, h2, Nat.add_sub_cancel' hm.1]
    · have h1 : (b * 2 ^ 52 + m) % 2 ^ 52 = 0 := by omega
      have h2 : (b * 2 ^ 52 + m) / 2 ^ 52 - 1 = b + 1 := by omega
      rw [h1, h2, hm, Nat.pow_succ]
      ring

/-! ### The pattern is found -/

/-- Where both neighbours are equally far. -/
theorem nearest_inside {num den b m : Nat} (hden : 0 < den) (hm : 0 < m)
    (hlow : b = 0 ∨ 2 ^ 52 < m) (hhigh : m < 2 ^ 53) (h : RoundsTo num den (b * 2 ^ 52 + m)) :
    nearest num den = min infinite (b * 2 ^ 52 + m) := by
  obtain ⟨hl, hh, hodd⟩ := h
  have h0 : units (b * 2 ^ 52 + m - 1) = (m - 1) * 2 ^ b := by
    rw [Nat.add_sub_assoc hm, units_block (by omega) (by omega)]
  have h1 : units (b * 2 ^ 52 + m) = m * 2 ^ b := units_block (by omega) (by omega)
  have h2 : units (b * 2 ^ 52 + m + 1) = (m + 1) * 2 ^ b := by
    rw [Nat.add_assoc, units_block (by omega) (by omega)]
  obtain ⟨k, rfl⟩ : ∃ k, m = k + 1 := ⟨m - 1, by omega⟩
  have hbelow : (units (b * 2 ^ 52 + (k + 1) - 1) + units (b * 2 ^ 52 + (k + 1))) * den =
      2 * (k * (den * 2 ^ b)) + den * 2 ^ b := by
    rw [h0, h1, Nat.add_sub_cancel]; ring
  have habove : (units (b * 2 ^ 52 + (k + 1)) + units (b * 2 ^ 52 + (k + 1) + 1)) * den =
      2 * (k * (den * 2 ^ b)) + 3 * (den * 2 ^ b) := by
    rw [h1, h2]; ring
  rw [hbelow] at hl hodd
  rw [habove] at hh hodd
  have hD : 0 < den * 2 ^ b := Nat.mul_pos hden (Nat.two_pow_pos b)
  have hk : k * (den * 2 ^ b) ≤ (2 ^ 53 - 2) * (den * 2 ^ b) := Nat.mul_le_mul_right _ (by omega)
  have hk' : b = 0 ∨ 2 ^ 52 * (den * 2 ^ b) ≤ k * (den * 2 ^ b) :=
    hlow.imp_right fun h => Nat.mul_le_mul_right _ (by omega)
  have hmul : (k + 1) * (den * 2 ^ b) = k * (den * 2 ^ b) + den * 2 ^ b := by ring
  rw [nearest_eq hden (b := b) (hk'.imp_right fun h => by omega) (by omega),
    roundHalfEven_eq (r := k + 1) hD (by rw [hmul]; omega) (by rw [hmul]; omega)]
  intro h
  have := hodd (by omega)
  rw [hmul]
  omega

/-- At a power of two. -/
theorem nearest_boundary {num den b : Nat} (hden : 0 < den)
    (h : RoundsTo num den ((b + 1) * 2 ^ 52 + 2 ^ 52)) :
    nearest num den = min infinite ((b + 1) * 2 ^ 52 + 2 ^ 52) := by
  obtain ⟨hl, hh, -⟩ := h
  have h0 : units ((b + 1) * 2 ^ 52 + 2 ^ 52 - 1) = (2 ^ 53 - 1) * 2 ^ b := by
    have hpred : (b + 1) * 2 ^ 52 + 2 ^ 52 - 1 = b * 2 ^ 52 + (2 ^ 53 - 1) := by omega
    rw [hpred, units_block (by omega) (by omega)]
  have h1 : units ((b + 1) * 2 ^ 52 + 2 ^ 52) = 2 ^ 53 * 2 ^ b := by
    rw [units_block (by omega) (by omega)]; ring
  have h2 : units ((b + 1) * 2 ^ 52 + 2 ^ 52 + 1) = (2 ^ 53 + 2) * 2 ^ b := by
    rw [Nat.add_assoc, units_block (by omega) (by omega)]; ring
  have hbelow : (units ((b + 1) * 2 ^ 52 + 2 ^ 52 - 1) + units ((b + 1) * 2 ^ 52 + 2 ^ 52)) * den =
      (2 ^ 54 - 1) * (den * 2 ^ b) := by
    rw [h0, h1, ← Nat.add_mul, Nat.mul_assoc, Nat.mul_comm den]
    norm_num
  have habove : (units ((b + 1) * 2 ^ 52 + 2 ^ 52) + units ((b + 1) * 2 ^ 52 + 2 ^ 52 + 1)) * den =
      (2 ^ 54 + 2) * (den * 2 ^ b) := by
    rw [h1, h2, ← Nat.add_mul, Nat.mul_assoc, Nat.mul_comm den]
    norm_num
  rw [hbelow] at hl
  rw [habove] at hh
  have hD : 0 < den * 2 ^ b := Nat.mul_pos hden (Nat.two_pow_pos b)
  have hD' : den * 2 ^ (b + 1) = 2 * (den * 2 ^ b) := by ring
  have hsame : b * 2 ^ 52 + 2 ^ 53 = (b + 1) * 2 ^ 52 + 2 ^ 52 := by omega
  by_cases hlt : num < 2 ^ 53 * (den * 2 ^ b)
  · rw [nearest_eq hden (b := b) (Or.inr (by omega)) hlt,
      roundHalfEven_eq (r := 2 ^ 53) hD (by omega) (by omega) (by omega), hsame]
  · rw [nearest_eq hden (b := b + 1) (Or.inr (by rw [hD']; omega)) (by rw [hD']; omega),
      roundHalfEven_eq (r := 2 ^ 52) (by omega) (by rw [hD']; omega) (by rw [hD']; omega)
        (by omega)]

/-- **`nearest` finds the pattern that a quotient is rounded to.** -/
theorem nearest_of_roundsTo {num den p : Nat} (hden : 0 < den) (hpos : 0 < p) (hp : p < infinite)
    (h : RoundsTo num den p) : nearest num den = p := by
  have hmin : min infinite p = p := Nat.min_eq_right (Nat.le_of_lt hp)
  obtain ⟨b, m, rfl, hm⟩ : ∃ b m, p = b * 2 ^ 52 + m ∧
      (0 < m ∧ m < 2 ^ 53 ∧ (b = 0 ∨ 2 ^ 52 < m) ∨ 0 < b ∧ m = 2 ^ 52) :=
    ⟨p / 2 ^ 52 - 1, p - (p / 2 ^ 52 - 1) * 2 ^ 52, by omega, by omega⟩
  rcases hm with ⟨hm, hm', hb⟩ | ⟨hb, rfl⟩
  · rw [nearest_inside hden hm hb hm' h, hmin]
  · obtain ⟨k, rfl⟩ : ∃ k, b = k + 1 := ⟨b - 1, by omega⟩
    rw [nearest_boundary hden h, hmin]

/-! ### The span of a pattern -/

/-- The unit `2 ^ -1074` of sizes, in units of `10 ^ -1074`. -/
def sizeUnit : Nat := 5 ^ 1074

theorem Span.low_of (p : Nat) : (Span.of p).low = (units (p - 1) + units p) * sizeUnit := rfl

theorem Span.high_of (p : Nat) : (Span.of p).high = (units p + units (p + 1)) * sizeUnit := rfl

theorem Span.covers_bounds {s : Span} {n : Nat} (h : s.covers n = true) :
    s.low ≤ 2 * n ∧ 2 * n ≤ s.high := by
  unfold Span.covers at h
  split at h <;> simp only [Bool.and_eq_true, decide_eq_true_eq] at h <;> omega

theorem Span.covers_open {s : Span} {n : Nat} (h : s.covers n = true) (hopen : s.closed = false) :
    s.low ≠ 2 * n ∧ 2 * n ≠ s.high := by
  simp only [Span.covers, hopen, Bool.false_eq_true, if_false, Bool.and_eq_true,
    decide_eq_true_eq] at h
  omega

/-- **The numbers that the span of a pattern covers are rounded to the pattern.** -/
theorem roundsTo_of_covers {p n num den : Nat} (hden : 0 < den) (hn : (Span.of p).covers n = true)
    (h : num * sizeUnit = n * den) : RoundsTo num den p := by
  have hb := Span.covers_bounds hn
  have ho := Span.covers_open hn
  rw [Span.low_of, Span.high_of] at hb ho
  have hunit : 0 < sizeUnit := Nat.pow_pos (by decide)
  have hscale : 2 * num * sizeUnit = 2 * n * den := by rw [Nat.mul_assoc, h, Nat.mul_assoc]
  have hodd : p % 2 = 1 → (Span.of p).closed = false := fun hp => by simp [Span.of, hp]
  refine ⟨?_, ?_, fun hp => ⟨fun heq => (ho (hodd hp)).1 ?_, fun heq => (ho (hodd hp)).2 ?_⟩⟩
  · refine Nat.le_of_mul_le_mul_right ?_ hunit
    rw [hscale, Nat.mul_right_comm]
    exact Nat.mul_le_mul_right den hb.1
  · refine Nat.le_of_mul_le_mul_right ?_ hunit
    rw [hscale, Nat.mul_right_comm _ den]
    exact Nat.mul_le_mul_right den hb.2
  · refine Nat.eq_of_mul_eq_mul_right hden ?_
    rw [← hscale, ← heq, Nat.mul_right_comm]
  · refine Nat.eq_of_mul_eq_mul_right hden ?_
    rw [← hscale, heq, Nat.mul_right_comm]

/-! ### How many digits a covered number has -/

theorem units_pos {p : Nat} (h : 0 < p) : 0 < units p := by
  unfold units
  split
  · exact h
  · exact Nat.mul_pos (by omega) (Nat.two_pow_pos _)

theorem units_le {p k : Nat} (h : p ≤ (k + 2) * 2 ^ 52) : units p ≤ 2 ^ 53 * 2 ^ k := by
  obtain rfl | hlt : p = (k + 1) * 2 ^ 52 + 2 ^ 52 ∨ p < (k + 2) * 2 ^ 52 := by omega
  · have hdouble : 2 ^ (k + 1) = 2 ^ k * 2 := pow_succ 2 k
    rw [units_block (by omega) (by omega)]
    omega
  · unfold units
    split
    · next hp => exact Nat.le_trans (by omega) (Nat.le_mul_of_pos_right _ (Nat.two_pow_pos k))
    · exact Nat.mul_le_mul (by omega) (Nat.pow_le_pow_right (by decide) (by omega))

theorem digitCount_le_iff {n k : Nat} (hk : 0 < k) : digitCount n ≤ k ↔ n < 10 ^ k :=
  Nat.length_toDigits_le_iff (by decide) hk

theorem toDigits_mul_pow {m : Nat} (hm : 0 < m) (u : Nat) :
    Nat.toDigits 10 (m * 10 ^ u) = Nat.toDigits 10 m ++ List.replicate u '0' := by
  induction u with
  | zero => simp
  | succ u ih =>
    have hpos : 0 < m * 10 ^ u := Nat.mul_pos hm (Nat.pow_pos (by decide))
    have hstep := Nat.toDigits_append_toDigits (b := 10) (by decide) hpos (d := 0) (by decide)
    rw [Nat.add_zero, Nat.toDigits_zero, ih] at hstep
    rw [Nat.pow_succ, ← Nat.mul_assoc, Nat.mul_comm _ 10, ← hstep, List.append_assoc,
      ← List.replicate_succ']

theorem digitCount_mul_pow {m : Nat} (hm : 0 < m) (u : Nat) :
    digitCount (m * 10 ^ u) = digitCount m + u := by
  rw [digitCount, toDigits_mul_pow hm, List.length_append, List.length_replicate, digitCount]

theorem digitCount_of_covers {p n : Nat} (hpos : 0 < p) (hp : p < infinite)
    (h : (Span.of p).covers n = true) : 700 < digitCount n ∧ digitCount n ≤ 1400 := by
  have hb := Span.covers_bounds h
  rw [Span.low_of, Span.high_of] at hb
  constructor
  · have h1 : 1 * sizeUnit ≤ (units (p - 1) + units p) * sizeUnit :=
      Nat.mul_le_mul_right _ (Nat.le_add_left_of_le (units_pos hpos))
    have h2 : 2 * 10 ^ 700 ≤ sizeUnit := by decide +kernel
    have h3 : 10 ^ 700 ≤ n := by omega
    exact Nat.lt_of_not_le fun hle => Nat.not_lt_of_le h3 ((digitCount_le_iff (by decide)).1 hle)
  · have h1 : (units p + units (p + 1)) * sizeUnit ≤ 2 * (2 ^ 53 * 2 ^ 2045) * sizeUnit := by
      refine Nat.mul_le_mul_right _ ?_
      rw [Nat.two_mul]
      exact Nat.add_le_add (units_le (Nat.le_of_lt hp)) (units_le hp)
    have h2 : 2 * (2 ^ 53 * 2 ^ 2045) * sizeUnit < 2 * 10 ^ 1400 := by decide +kernel
    exact (digitCount_le_iff (by decide)).2 (by omega)

/-! ### Decimals -/

theorem two_pow_mul_sizeUnit : 2 ^ 1074 * sizeUnit = 10 ^ 1074 := by
  have h : (2 : Nat) * 5 = 10 := by decide
  rw [sizeUnit, ← mul_pow, h]

/-- **A decimal that the span of a pattern covers is read as the pattern.** -/
theorem nearestDecimal_of_covers {p m u : Nat} (hpos : 0 < p) (hp : p < infinite)
    (h : (Span.of p).covers (m * 10 ^ u) = true) : nearestDecimal m ((u : Int) - 1074) = p := by
  have hdigits := digitCount_of_covers hpos hp h
  have hm : m ≠ 0 := by
    rintro rfl
    rw [Nat.zero_mul] at hdigits
    exact absurd hdigits.1 (by decide)
  rw [digitCount_mul_pow (Nat.pos_of_ne_zero hm), digitCount] at hdigits
  unfold nearestDecimal
  simp only [hm, decide_eq_true_eq, decide_false, Bool.false_or]
  rw [if_neg (by omega), if_neg (by omega)]
  split
  · next hu =>
    obtain ⟨k, rfl⟩ : ∃ k, u = k + 1074 := ⟨u - 1074, by omega⟩
    have hk : (((k + 1074 : Nat) : Int) - 1074).toNat = k := by omega
    rw [hk]
    refine nearest_of_roundsTo Nat.one_pos hpos hp (roundsTo_of_covers Nat.one_pos h ?_)
    rw [Nat.mul_assoc, two_pow_mul_sizeUnit, Nat.mul_assoc, ← pow_add, Nat.mul_one]
  · next hu =>
    obtain ⟨k, hk⟩ : ∃ k, u + k = 1074 := ⟨1074 - u, by omega⟩
    have hk' : (-((u : Int) - 1074)).toNat = k := by omega
    have hden : 0 < 10 ^ k := Nat.pow_pos (by decide)
    rw [hk']
    refine nearest_of_roundsTo hden hpos hp (roundsTo_of_covers hden h ?_)
    rw [Nat.mul_assoc, two_pow_mul_sizeUnit, Nat.mul_assoc, ← pow_add, hk]

end GeoScript.Decimal
