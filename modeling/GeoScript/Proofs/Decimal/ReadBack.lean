import Mathlib
import GeoScript.Number
import GeoScript.Proofs.Decimal.Printing
import GeoScript.Proofs.Decimal.Rounding
import GeoScript.Proofs.Text.Trim

/-! # Numbers are read back

What is written for a finite number is a literal, in either notation and either style, and the
literal denotes a decimal that is rounded to the number (`Numeral.Denotes`). So the number that is
read from it is the same, with its sign, and it is not taken for a whole number, because the literal
has a point or an exponent. A whole number is written in its digits and read back from these.

* `denotes_shortest`: the fewest digits stand for the pattern that they were chosen for.
* `write_spec`: the literal that a style writes for a pattern.
* `exists_read?_write`, `read?_integerText`, `Number.read?_display`: reading undoes writing. -/

namespace GeoScript.Decimal

/-! ### Digits and their value -/

theorem ofDigits_toDigits (n : Nat) : ofDigits (Nat.toDigits 10 n) = n :=
  Nat.ofDigitChars_ten_toDigits

theorem ofDigits_append_zeros (ds : List Char) (k : Nat) :
    ofDigits (ds ++ List.replicate k '0') = ofDigits ds * 10 ^ k := by
  rw [ofDigits, Nat.ofDigitChars_append, Nat.ofDigitChars_replicate_zero, ofDigits, Nat.mul_comm]

theorem ofDigits_zeros_append (ds : List Char) (k : Nat) :
    ofDigits (List.replicate k '0' ++ ds) = ofDigits ds := by
  rw [ofDigits, Nat.ofDigitChars_append, Nat.ofDigitChars_replicate_zero, Nat.mul_zero, ofDigits]

theorem isDigit_of_mem_toDigits {n : Nat} : ∀ c ∈ Nat.toDigits 10 n, c.isDigit = true :=
  fun _ hc => Nat.isDigit_of_mem_toDigits (by decide) (by decide) hc

theorem head?_toDigits {n : Nat} (hn : 0 < n) : (Nat.toDigits 10 n).head? ≠ some '0' := by
  induction n using Nat.strongRecOn with
  | _ n ih =>
    rw [Nat.toDigits_eq_if (by decide)]
    split
    · have hdigit : ∀ d < 10, 0 < d → Nat.digitChar d ≠ '0' := by decide
      simpa using hdigit n ‹_› hn
    · rw [List.head?_append_of_ne_nil _ Nat.toDigits_ne_nil]
      exact ih (n / 10) (by omega) (by omega)

theorem isDigit_of_mem_zeros {k : Nat} : ∀ c ∈ List.replicate k '0', c.isDigit = true := by
  intro c hc
  rw [List.eq_of_mem_replicate hc]
  decide

/-- The digits of a number are some digits and then the zeros at the end. -/
theorem toDigits_eq_of (a : Nat) (e : Int) :
    ∃ k, Nat.toDigits 10 a = (Numeral.of a e).digits ++ List.replicate k '0' := by
  have h := List.takeWhile_append_dropWhile (p := (· == '0')) (l := (Nat.toDigits 10 a).reverse)
  refine ⟨((Nat.toDigits 10 a).reverse.takeWhile (· == '0')).length, ?_⟩
  have hzeros : (Nat.toDigits 10 a).reverse.takeWhile (· == '0') =
      List.replicate ((Nat.toDigits 10 a).reverse.takeWhile (· == '0')).length '0' := by
    rw [List.eq_replicate_iff]
    exact ⟨rfl, fun c hc => by simpa using List.all_eq_true.1 List.all_takeWhile c hc⟩
  rw [← List.reverse_inj, List.reverse_append, List.reverse_replicate, ← hzeros, Numeral.of,
    List.reverse_reverse, h]

/-! ### The fewest digits -/

/-- Some digits and a point stand for a decimal that is rounded to the pattern `p`. -/
structure Numeral.Denotes (d : Numeral) (p : Nat) : Prop where
  digits_ne_nil : d.digits ≠ []
  isDigit : ∀ c ∈ d.digits, c.isDigit = true
  head_ne_zero : d.digits.head? ≠ some '0'
  covers : ∃ u : Nat, d.point = d.digits.length + u - 1074 ∧
    (Span.of p).covers (ofDigits d.digits * 10 ^ u) = true

theorem units_lt_succ (p : Nat) : units p < units (p + 1) := by
  obtain ⟨b, m, rfl, hlow, hhigh⟩ : ∃ b m, p = b * 2 ^ 52 + m ∧ (b = 0 ∨ 2 ^ 52 ≤ m) ∧ m < 2 ^ 53 :=
    ⟨p / 2 ^ 52 - 1, p - (p / 2 ^ 52 - 1) * 2 ^ 52, by omega, by omega, by omega⟩
  rw [Nat.add_assoc, units_block hlow (by omega), units_block (by omega) (by omega)]
  exact Nat.mul_lt_mul_of_pos_right (Nat.lt_succ_self m) (Nat.two_pow_pos b)

theorem covers_size {p : Nat} (hp : 0 < p) : (Span.of p).covers (Span.of p).size = true := by
  obtain ⟨k, rfl⟩ : ∃ k, p = k + 1 := ⟨p - 1, by omega⟩
  have hunit : 0 < sizeUnit := Nat.pow_pos (by decide)
  have h1 := Nat.mul_lt_mul_of_pos_right (units_lt_succ k) hunit
  have h2 := Nat.mul_lt_mul_of_pos_right (units_lt_succ (k + 1)) hunit
  have hsize : (Span.of (k + 1)).size = units (k + 1) * sizeUnit := rfl
  have hlow : (Span.of (k + 1)).low < 2 * (Span.of (k + 1)).size := by
    rw [Span.low_of, hsize, Nat.add_mul, Nat.add_sub_cancel]
    omega
  have hhigh : 2 * (Span.of (k + 1)).size < (Span.of (k + 1)).high := by
    rw [Span.high_of, hsize, Nat.add_mul]
    omega
  unfold Span.covers
  split <;> simp only [Bool.and_eq_true, decide_eq_true_eq] <;> omega

/-- What is found on the way down the grids is covered. -/
theorem covers_descend {s : Span} (tie : Tie) (h : s.covers s.size = true) (j : Nat) :
    s.covers ((s.descend tie j).1 * 10 ^ (s.descend tie j).2) = true := by
  induction j with
  | zero => simpa [Span.descend] using h
  | succ j ih =>
    unfold Span.descend
    split
    · next a ha => exact Span.covers_of_onGrid ha
    · exact ih

theorem denotes_of_covers {p a j : Nat} (hpos : 0 < p) (hp : p < infinite)
    (h : (Span.of p).covers (a * 10 ^ j) = true) :
    (Numeral.of a ((j : Int) - 1074)).Denotes p := by
  obtain ⟨k, hk⟩ := toDigits_eq_of a ((j : Int) - 1074)
  have hpoint : (Numeral.of a ((j : Int) - 1074)).point = digitCount a + ((j : Int) - 1074) := rfl
  generalize Numeral.of a ((j : Int) - 1074) = d at hk hpoint
  have hcount : digitCount a = d.digits.length + k := by
    rw [digitCount, hk, List.length_append, List.length_replicate]
  have hvalue : a = ofDigits d.digits * 10 ^ k := by
    rw [← ofDigits_append_zeros, ← hk, ofDigits_toDigits]
  have hne : d.digits ≠ [] := by
    intro hnil
    have hzero : ofDigits [] = 0 := rfl
    rw [hvalue, hnil, hzero, Nat.zero_mul, Nat.zero_mul] at h
    exact absurd (digitCount_of_covers hpos hp h).1 (by decide)
  refine ⟨hne, ?_, ?_, k + j, ?_, ?_⟩
  · intro c hc
    exact isDigit_of_mem_toDigits (n := a) c (hk ▸ List.mem_append_left _ hc)
  · have ha : 0 < a := by
      rcases Nat.eq_zero_or_pos a with rfl | ha
      · rw [Nat.zero_mul] at h
        exact absurd (digitCount_of_covers hpos hp h).1 (by decide)
      · exact ha
    have hhead := head?_toDigits ha
    rwa [hk, List.head?_append_of_ne_nil _ hne] at hhead
  · rw [hpoint, hcount]
    omega
  · rw [Nat.pow_add, ← Nat.mul_assoc, ← hvalue]
    exact h

/-- **The fewest digits stand for the pattern that they were chosen for.** -/
theorem denotes_shortest (tie : Tie) {p : Nat} (hpos : 0 < p) (hp : p < infinite) :
    (shortest tie p).Denotes p := by
  have h := covers_descend tie (covers_size hpos) (digitCount (Span.of p).size - 1)
  unfold shortest
  simp only
  generalize (Span.of p).descend tie (digitCount (Span.of p).size - 1) = d at h
  exact denotes_of_covers hpos hp h

/-! ### The two notations -/

/-- A literal is proper, has a point or an exponent, no needless zero in front and digits after a
point, and denotes a decimal that is rounded to the pattern `p`. -/
structure Literal.Writes (l : Literal) (negative : Bool) (p : Nat) : Prop where
  proper : l.Proper
  front : l.whole.length = 1 ∨ l.whole.head? ≠ some '0'
  fraction_ne_nil : l.fraction ≠ some []
  whole? : l.whole? = none
  sign : l.negative = negative
  nearest : nearestDecimal (ofDigits (l.whole ++ l.fraction.getD [])) l.scale = p

section Notations

variable {d : Numeral} {p : Nat} (hd : d.Denotes p) (hpos : 0 < p) (hp : p < infinite)

include hd hpos hp

/-- The digits of a numeral, after and before any zeros, are read as its pattern. -/
theorem nearestDecimal_of_denotes {ds : List Char} {e : Int} (k : Nat)
    (hds : ofDigits ds = ofDigits d.digits * 10 ^ k) (he : e + k = d.point - d.digits.length)
    (hk : 0 ≤ e + 1074) : nearestDecimal (ofDigits ds) e = p := by
  obtain ⟨u, hu, hcovers⟩ := hd.covers
  obtain ⟨v, hv⟩ : ∃ v : Nat, u = k + v := ⟨u - k, by omega⟩
  have he' : e = (v : Int) - 1074 := by omega
  rw [hv, Nat.pow_add, ← Nat.mul_assoc, ← hds] at hcovers
  rw [he', nearestDecimal_of_covers hpos hp hcovers]

/-- Digits with a point among them, if they are those of the numeral with `k` zeros after them and
any number of zeros before them. -/
theorem exists_writes_of_digits {whole fraction : List Char} (negative plusSign : Bool) (k : Nat)
    (hne : whole ≠ []) (hwhole : ∀ c ∈ whole, c.isDigit = true)
    (hfront : whole.length = 1 ∨ whole.head? ≠ some '0')
    (hpoint : fraction ≠ []) (hfraction : ∀ c ∈ fraction, c.isDigit = true)
    (hvalue : ofDigits (whole ++ fraction) = ofDigits d.digits * 10 ^ k)
    (hscale : (k : Int) - fraction.length = d.point - d.digits.length)
    (hlen : fraction.length ≤ 1074) :
    ∃ l : Literal, l.Writes negative p ∧
      l.write plusSign = signText negative false ++ (whole ++ '.' :: fraction) := by
  refine ⟨⟨negative, whole, some fraction, none⟩,
    ⟨⟨hne, hwhole, ?_, by simp⟩, hfront, by simpa using hpoint, rfl, rfl, ?_⟩, ?_⟩
  · intro ds hds
    cases hds
    exact hfraction
  · have hpoint : Literal.scale ⟨negative, whole, some fraction, none⟩ = -fraction.length := by
      simp [Literal.scale]
    rw [hpoint]
    exact nearestDecimal_of_denotes hd hpos hp k hvalue (by omega) (by omega)
  · simp [Literal.write, fractionText, exponentText]

theorem positional_spec (negative plusSign : Bool) : ∃ l : Literal, l.Writes negative p ∧
    l.write plusSign = signText negative false ++ d.positional := by
  obtain ⟨u, hu, -⟩ := hd.covers
  have hlen : 0 < d.digits.length := List.length_pos_iff.2 hd.digits_ne_nil
  unfold Numeral.positional
  split
  · next hpoint =>
    -- zeros between the point and the digits
    have hzeros : ∀ c ∈ List.replicate (-d.point).toNat '0' ++ d.digits, c.isDigit = true :=
      fun c hc => (List.mem_append.1 hc).elim (isDigit_of_mem_zeros c) (hd.isDigit c)
    have hvalue : ofDigits (['0'] ++ (List.replicate (-d.point).toNat '0' ++ d.digits)) =
        ofDigits d.digits * 10 ^ 0 := by
      rw [← List.append_assoc, List.singleton_append, ← List.replicate_succ,
        ofDigits_zeros_append, Nat.pow_zero, Nat.mul_one]
    obtain ⟨l, hl, htext⟩ := exists_writes_of_digits hd hpos hp negative plusSign 0 (by simp)
      (by simp) (.inl rfl) (by simp [hd.digits_ne_nil]) hzeros hvalue (by simp; omega)
      (by simp; omega)
    exact ⟨l, hl, by simp [htext]⟩
  · next hpoint =>
    split
    · next hmid =>
      -- the point among the digits
      have hwhole : d.digits.take d.point.toNat ≠ [] := by
        intro hnil
        rcases List.take_eq_nil_iff.1 hnil with h | h
        · omega
        · exact hd.digits_ne_nil h
      have hfront : (d.digits.take d.point.toNat).head? ≠ some '0' := by
        rw [List.head?_take, if_neg (by omega)]
        exact hd.head_ne_zero
      have hafter : d.digits.drop d.point.toNat ≠ [] := by
        rw [Ne, List.drop_eq_nil_iff]
        omega
      exact exists_writes_of_digits hd hpos hp negative plusSign 0 hwhole
        (fun c hc => hd.isDigit c (List.mem_of_mem_take hc)) (.inr hfront) hafter
        (fun c hc => hd.isDigit c (List.mem_of_mem_drop hc))
        (by rw [List.take_append_drop, Nat.pow_zero, Nat.mul_one])
        (by simp; omega) (by simp; omega)
    · next hlong =>
      -- zeros between the digits and the point, and one after it
      have hzeros : ∀ c ∈ d.digits ++ List.replicate (d.point.toNat - d.digits.length) '0',
          c.isDigit = true :=
        fun c hc => (List.mem_append.1 hc).elim (hd.isDigit c) (isDigit_of_mem_zeros c)
      have hvalue : ofDigits (d.digits ++ List.replicate (d.point.toNat - d.digits.length) '0' ++
          ['0']) = ofDigits d.digits * 10 ^ (d.point.toNat - d.digits.length + 1) := by
        rw [List.append_assoc, ← List.replicate_one, List.replicate_append_replicate,
          ofDigits_append_zeros]
      have hfront : (d.digits ++ List.replicate (d.point.toNat - d.digits.length) '0').head? ≠
          some '0' := by
        rw [List.head?_append_of_ne_nil _ hd.digits_ne_nil]
        exact hd.head_ne_zero
      exact exists_writes_of_digits hd hpos hp negative plusSign
        (d.point.toNat - d.digits.length + 1)
        (fun hnil => hd.digits_ne_nil (List.append_eq_nil_iff.1 hnil).1) hzeros (.inr hfront)
        (by simp) (isDigit_of_mem_zeros (k := 1)) hvalue (by simp; omega) (by simp)

theorem scientific_spec (negative plusSign : Bool) : ∃ l : Literal, l.Writes negative p ∧
    l.write plusSign = signText negative false ++ d.scientific plusSign := by
  obtain ⟨u, hu, -⟩ := hd.covers
  obtain ⟨c, cs, hdigits⟩ := List.exists_cons_of_ne_nil hd.digits_ne_nil
  have hc : c.isDigit = true := hd.isDigit c (by rw [hdigits]; simp)
  have hcs : ∀ c ∈ cs, c.isDigit = true := fun c hc => hd.isDigit c (by rw [hdigits]; simp [hc])
  let fraction := if cs.isEmpty then none else some cs
  have hfraction : fraction.getD [] = cs := by
    cases cs <;> rfl
  let l : Literal :=
    ⟨negative, [c], fraction, some (d.point - 1 < 0, Nat.toDigits 10 (d.point - 1).natAbs)⟩
  have hscale : l.scale = d.point - d.digits.length := by
    have hexponent : (if d.point - 1 < 0 then -((d.point - 1).natAbs : Int)
        else (d.point - 1).natAbs) = d.point - 1 := by split <;> omega
    simp only [Literal.scale, l, hfraction, ofDigits_toDigits, decide_eq_true_eq, hexponent,
      hdigits, List.length_cons]
    omega
  have hpoint : l.fraction ≠ some [] := by
    cases cs <;> simp [l, fraction]
  refine ⟨l, ⟨⟨by simp [l], by simpa [l] using hc, ?_, ?_⟩, .inl rfl, hpoint, ?_, rfl, ?_⟩, ?_⟩
  · intro ds hds
    simp only [l, fraction] at hds
    split at hds <;> cases hds
    exact hcs
  · intro s ds hds
    simp only [l, Option.some.injEq, Prod.mk.injEq] at hds
    obtain ⟨-, rfl⟩ := hds
    exact ⟨Nat.toDigits_ne_nil, isDigit_of_mem_toDigits⟩
  · simp [Literal.whole?, l]
  · refine nearestDecimal_of_denotes hd hpos hp 0 ?_ ?_ ?_
    · simp only [l, hfraction, List.singleton_append, hdigits, Nat.pow_zero, Nat.mul_one]
    · rw [hscale]; omega
    · rw [hscale]; omega
  · have htext : fractionText fraction = if cs.isEmpty then [] else '.' :: cs := by
      cases cs <;> rfl
    simp only [Literal.write, l, htext, exponentText, Numeral.scientific, hdigits,
      List.take_succ_cons, List.take_zero, List.drop_succ_cons, List.drop_zero, signText,
      decide_eq_true_eq]
    simp

end Notations

theorem nearestDecimal_zero (e : Int) : nearestDecimal 0 e = 0 := by
  unfold nearestDecimal
  exact if_pos (by simp)

/-- **The literal that a style writes for a pattern.** -/
theorem write_spec (style : FloatStyle) (negative : Bool) {p : Nat} (hp : p < infinite) :
    ∃ l : Literal, l.Writes negative p ∧ l.write style.plusSign = style.write negative p := by
  have hsign : (if negative then ['-'] else []) = signText negative false := by
    cases negative <;> rfl
  unfold FloatStyle.write
  rw [hsign]
  by_cases h0 : p = 0
  · have hzero : nearestDecimal (ofDigits ['0', '0']) (-1) = p := by
      rw [h0]
      exact nearestDecimal_zero (-1)
    refine ⟨⟨negative, ['0'], some ['0'], none⟩,
      ⟨⟨by simp, by simp, by simp, by simp⟩, .inl rfl, by simp, rfl, rfl, hzero⟩, ?_⟩
    simp [Literal.write, fractionText, exponentText, h0]
  · have hpos : 0 < p := Nat.pos_of_ne_zero h0
    have hd := denotes_shortest style.tie hpos hp
    rw [if_neg h0]
    unfold FloatStyle.writeNumeral
    split
    · exact positional_spec hd hpos hp negative style.plusSign
    · exact scientific_spec hd hpos hp negative style.plusSign

/-! ### Reading back -/

theorem ofMagnitude_magnitude (x : Float) : ofMagnitude (isNegative x) (magnitude x) = x := by
  have hlt : x.toBits.toNat < 2 ^ 64 := x.toBits.toNat_lt
  have hbits : (if isNegative x then 2 ^ 63 + magnitude x else magnitude x) = x.toBits.toNat := by
    unfold isNegative magnitude
    simp only [decide_eq_true_eq]
    split <;> omega
  rw [ofMagnitude, hbits, UInt64.ofNat_toNat, Float.ofBits_toBits]

theorem isBlank_of_isNumeric {c : Char} (h : isNumeric c = true) : Text.isBlank c = false := by
  simp only [isNumeric, Char.isDigit, Bool.or_eq_true, beq_iff_eq, Bool.and_eq_true,
    decide_eq_true_eq, ge_iff_le, UInt32.le_iff_toNat_le] at h
  rcases h with ((((⟨h1, h2⟩ | rfl) | rfl) | rfl) | rfl) | rfl
  · exact Text.isBlank_of_visible (Nat.lt_of_lt_of_le (by decide) h1)
      (Nat.lt_of_le_of_lt h2 (by decide))
  all_goals decide

theorem tight_of_read? {cs : List Char} {l : Literal} (h : Literal.read? cs = some l) :
    Text.Tight cs := by
  have hne : cs ≠ [] := by
    rintro rfl
    cases h
  exact Text.tight_of_not_blank hne fun c hc => isBlank_of_isNumeric (isNumeric_of_read? h c hc)

/-- **A finite number is read from its text, in either style.** -/
theorem exists_read?_write (style : FloatStyle) {x : Float} (hx : isFinite x = true) :
    ∃ l, Literal.read? (style.write (isNegative x) (magnitude x)) = some l ∧ l.whole? = none ∧
      l.toFloat = x := by
  obtain ⟨l, hl, htext⟩ := write_spec style (isNegative x) (of_decide_eq_true hx)
  refine ⟨l, ?_, hl.whole?, ?_⟩
  · rw [← htext, read?_write _ hl.proper]
  · rw [Literal.toFloat, hl.sign, hl.nearest, ofMagnitude_magnitude]

theorem read?_integerText (n : Int) :
    Literal.read? (integerText n) = some ⟨n < 0, Nat.toDigits 10 n.natAbs, none, none⟩ := by
  have hproper : Literal.Proper ⟨n < 0, Nat.toDigits 10 n.natAbs, none, none⟩ :=
    ⟨Nat.toDigits_ne_nil, isDigit_of_mem_toDigits, by simp, by simp⟩
  rw [← read?_write false hproper]
  congr 1
  simp [integerText, Literal.write, fractionText, exponentText, signText]

theorem whole?_integerText (n : Int) :
    Literal.whole? ⟨n < 0, Nat.toDigits 10 n.natAbs, none, none⟩ = some n := by
  have hvalue : (if n < 0 then -(n.natAbs : Int) else n.natAbs) = n := by
    split <;> omega
  simp only [Literal.whole?, ofDigits_toDigits, Option.isNone_none, Bool.and_self, if_true,
    decide_eq_true_eq, hvalue]

end GeoScript.Decimal

namespace GeoScript

open Decimal

/-! ### Numbers -/

/-- Every floating-point number among the values is finite. -/
def Number.IsFinite : Number → Prop
  | .int _ => True
  | .float x => isFinite x = true

/-- The text of a finite number is a literal that denotes it. -/
theorem Number.literal_display {n : Number} (h : n.IsFinite) :
    ∃ l, Literal.read? n.display = some l ∧ ofLiteral l = n := by
  cases n with
  | int n =>
    refine ⟨_, read?_integerText n.toInt, ?_⟩
    rw [ofLiteral, whole?_integerText]
    simp only [fitsInt64_toInt n, if_true, Int64.ofInt_toInt]
  | float x =>
    have hx : isFinite x = true := h
    obtain ⟨l, hl, hwhole, hvalue⟩ := exists_read?_write FloatStyle.display hx
    refine ⟨l, ?_, ?_⟩
    · rw [display, displayText, if_pos hx, hl]
    · rw [ofLiteral, hwhole]
      simp only [hvalue]

/-- **A finite number is read back from its text.** -/
theorem Number.read?_display {n : Number} (h : n.IsFinite) : Number.read? n.display = some n := by
  obtain ⟨l, hl, hvalue⟩ := literal_display h
  rw [Number.read?, Text.trim_of_tight (tight_of_read? hl), hl, Option.map_some, hvalue]

theorem Number.tight_display {n : Number} (h : n.IsFinite) : Text.Tight n.display := by
  obtain ⟨l, hl, -⟩ := literal_display h
  exact tight_of_read? hl

theorem Number.isNumeric_or_isBlank {cs : List Char} {n : Number} (h : Number.read? cs = some n) :
    ∀ c ∈ cs, isNumeric c = true ∨ Text.isBlank c = true := by
  obtain ⟨l, hl, -⟩ := Option.map_eq_some_iff.1 h
  obtain ⟨before, after, hcs, hb, ha⟩ := Text.exists_blanks cs
  intro c hc
  rw [hcs, List.append_assoc, List.mem_append, List.mem_append] at hc
  rcases hc with hc | hc | hc
  · exact .inr (hb c hc)
  · exact .inl (isNumeric_of_read? hl c hc)
  · exact .inr (ha c hc)

end GeoScript
