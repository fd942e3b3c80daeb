import GeoScript.Proofs.Decimal.Integers

/-! # The grammar of numerals

The texts of numbers as regular expressions over characters, with `D` for a digit:

* `integer`: `[+-]?D+`.
* `literal`: `[+-]?(D+(.D*)?|.D+)([eE][+-]?D+)?`.

The reader of literals does not follow these expressions; it splits off one part after another. It
reads the same texts, and as whole numbers those of integers.

* `mem_signed`, `mem_digits`, `mem_mantissa`, `mem_exponent`: what the parts match.
* `read?_isSome_iff`: the literals are what is read.
* `whole?_eq_some_iff`: the integers are what is read as whole numbers.
* `mem_integer_iff`: integers are literals without point and exponent. -/

namespace GeoScript.Decimal

namespace Grammar

variable {x : List Char} {r : RegularExpression Char}

/-! ### Regular expressions -/

/-- One of some characters. -/
def oneOf (cs : List Char) : RegularExpression Char := (cs.map .char).sum

/-- What an expression matches, or nothing. -/
def perhaps (r : RegularExpression Char) : RegularExpression Char := r + 1

/-- A digit. -/
def digit : RegularExpression Char := oneOf ['0', '1', '2', '3', '4', '5', '6', '7', '8', '9']

/-- Digits, at least one. -/
def digits : RegularExpression Char := digit * digit.star

/-- An expression after a sign, which may be left out. -/
def signed (r : RegularExpression Char) : RegularExpression Char := perhaps (oneOf ['+', '-']) * r

/-- An integer. -/
def integer : RegularExpression Char := signed digits

/-- Digits with a point or without. -/
def mantissa : RegularExpression Char :=
  digits * perhaps (.char '.' * digit.star) + .char '.' * digits

/-- A power of ten. -/
def exponent : RegularExpression Char := oneOf ['e', 'E'] * signed digits

/-- A numeric literal. -/
def literal : RegularExpression Char := signed (mantissa * perhaps exponent)

/-! ### What they match -/

theorem mem_oneOf {cs : List Char} : x ∈ (oneOf cs).matches' ↔ ∃ c ∈ cs, x = [c] := by
  induction cs with
  | nil => exact ⟨fun h => h.elim, fun ⟨_, h, _⟩ => nomatch h⟩
  | cons c cs ih =>
    have hsum : oneOf (c :: cs) = .char c + oneOf cs := rfl
    rw [hsum, RegularExpression.matches'_add, Language.mem_add, ih, List.exists_mem_cons_iff]
    rfl

theorem mem_perhaps : x ∈ (perhaps r).matches' ↔ x ∈ r.matches' ∨ x = [] := by
  rw [perhaps, RegularExpression.matches'_add, Language.mem_add]
  rfl

theorem mem_char_mul {c : Char} : x ∈ (.char c * r).matches' ↔ ∃ y ∈ r.matches', x = c :: y := by
  rw [RegularExpression.matches'_mul, Language.mem_mul]
  constructor
  · rintro ⟨_, rfl, y, hy, rfl⟩
    exact ⟨y, hy, rfl⟩
  · rintro ⟨y, hy, rfl⟩
    exact ⟨[c], rfl, y, hy, rfl⟩

theorem isDigit_iff {c : Char} :
    c.isDigit = true ↔ c ∈ ['0', '1', '2', '3', '4', '5', '6', '7', '8', '9'] := by
  constructor
  · intro h
    obtain ⟨hlow, hhigh⟩ := Char.isDigit_iff_toNat.mp h
    change 48 ≤ c.toNat at hlow
    change c.toNat ≤ 57 at hhigh
    rw [← Char.ofNat_toNat c]
    interval_cases c.toNat <;> decide
  · intro h
    fin_cases h <;> rfl

theorem mem_digit : x ∈ digit.matches' ↔ ∃ c, c.isDigit = true ∧ x = [c] := by
  simp only [digit, mem_oneOf, isDigit_iff]

theorem mem_star_digit : x ∈ digit.star.matches' ↔ ∀ c ∈ x, c.isDigit = true := by
  rw [RegularExpression.matches'_star, Language.mem_kstar]
  constructor
  · rintro ⟨parts, rfl, hparts⟩ c hc
    obtain ⟨part, hpart, hc⟩ := List.mem_flatten.mp hc
    obtain ⟨d, hd, rfl⟩ := mem_digit.mp (hparts part hpart)
    rwa [List.mem_singleton.mp hc]
  · intro h
    refine ⟨x.map fun c => [c], ?_, ?_⟩
    · rw [← List.flatMap_def, List.flatMap_singleton']
    · intro part hpart
      obtain ⟨c, hc, rfl⟩ := List.mem_map.mp hpart
      exact mem_digit.mpr ⟨c, h c hc, rfl⟩

theorem mem_digits : x ∈ digits.matches' ↔ x ≠ [] ∧ ∀ c ∈ x, c.isDigit = true := by
  rw [digits, RegularExpression.matches'_mul, Language.mem_mul]
  constructor
  · rintro ⟨_, hy, z, hz, rfl⟩
    obtain ⟨c, hc, rfl⟩ := mem_digit.mp hy
    exact ⟨List.cons_ne_nil _ _, List.forall_mem_cons.mpr ⟨hc, mem_star_digit.mp hz⟩⟩
  · rintro ⟨hne, hx⟩
    obtain ⟨c, cs, rfl⟩ := List.exists_cons_of_ne_nil hne
    obtain ⟨hc, hcs⟩ := List.forall_mem_cons.mp hx
    exact ⟨[c], mem_digit.mpr ⟨c, hc, rfl⟩, cs, mem_star_digit.mpr hcs, rfl⟩

theorem mem_signed :
    x ∈ (signed r).matches' ↔
      ∃ negative plusSign, ∃ y ∈ r.matches', x = signText negative plusSign ++ y := by
  rw [signed, RegularExpression.matches'_mul, Language.mem_mul]
  constructor
  · rintro ⟨s, hs, y, hy, rfl⟩
    rcases mem_perhaps.mp hs with hs | rfl
    · obtain ⟨c, hc, rfl⟩ := mem_oneOf.mp hs
      rcases List.mem_pair.mp hc with rfl | rfl
      · exact ⟨false, true, y, hy, rfl⟩
      · exact ⟨true, false, y, hy, rfl⟩
    · exact ⟨false, false, y, hy, rfl⟩
  · rintro ⟨negative, plusSign, y, hy, rfl⟩
    refine ⟨signText negative plusSign, mem_perhaps.mpr ?_, y, hy, rfl⟩
    cases negative with
    | true => exact .inl (mem_oneOf.mpr ⟨'-', by decide, rfl⟩)
    | false =>
      cases plusSign with
      | true => exact .inl (mem_oneOf.mpr ⟨'+', by decide, rfl⟩)
      | false => exact .inr rfl

theorem mem_mantissa :
    x ∈ mantissa.matches' ↔
      ∃ whole fraction, x = whole ++ fractionText fraction ∧
        (∀ c ∈ whole ++ fraction.getD [], c.isDigit = true) ∧ whole ++ fraction.getD [] ≠ [] := by
  rw [mantissa, RegularExpression.matches'_add, Language.mem_add, mem_char_mul,
    RegularExpression.matches'_mul, Language.mem_mul]
  simp only [mem_digits, mem_perhaps, mem_char_mul, mem_star_digit]
  constructor
  · rintro (⟨whole, ⟨hne, hwhole⟩, f, ⟨ds, hds, rfl⟩ | rfl, rfl⟩ | ⟨ds, ⟨hne, hds⟩, rfl⟩)
    · exact ⟨whole, some ds, rfl, List.forall_mem_append.mpr ⟨hwhole, hds⟩,
        fun h => hne (List.append_eq_nil_iff.mp h).1⟩
    · exact ⟨whole, none, rfl, List.forall_mem_append.mpr ⟨hwhole, List.forall_mem_nil _⟩,
        fun h => hne (List.append_eq_nil_iff.mp h).1⟩
    · exact ⟨[], some ds, rfl, hds, hne⟩
  · rintro ⟨whole, fraction, rfl, hds, hne⟩
    obtain ⟨hwhole, hfraction⟩ := List.forall_mem_append.mp hds
    by_cases hnil : whole = []
    · subst hnil
      cases fraction with
      | none => exact absurd rfl hne
      | some ds => exact .inr ⟨ds, ⟨hne, hfraction⟩, rfl⟩
    · refine .inl ⟨whole, ⟨hnil, hwhole⟩, fractionText fraction, ?_, rfl⟩
      cases fraction with
      | none => exact .inr rfl
      | some ds => exact .inl ⟨ds, hfraction, rfl⟩

theorem mem_exponent : x ∈ (perhaps exponent).matches' ↔ ∃ e, readExponent? x = some e := by
  simp only [mem_perhaps, exponent, RegularExpression.matches'_mul, Language.mem_mul, mem_oneOf,
    mem_signed, mem_digits, readExponent?_eq_some_iff]
  constructor
  · rintro (⟨_, ⟨mark, hmark, rfl⟩, _, ⟨negative, plusSign, ds, ⟨hne, hds⟩, rfl⟩, rfl⟩ | rfl)
    · exact ⟨some (negative, ds), .inr ⟨mark, negative, plusSign, ds, List.mem_pair.mp hmark, hne,
        hds, rfl, rfl⟩⟩
    · exact ⟨none, .inl ⟨rfl, rfl⟩⟩
  · rintro ⟨e, ⟨rfl, -⟩ | ⟨mark, negative, plusSign, ds, hmark, hne, hds, rfl, -⟩⟩
    · exact .inr rfl
    · exact .inl ⟨[mark], ⟨mark, List.mem_pair.mpr hmark, rfl⟩, _,
        ⟨negative, plusSign, ds, ⟨hne, hds⟩, rfl⟩, rfl⟩

end Grammar

open Grammar

/-! ### What is read -/

/-- **The literals are what is read.** -/
theorem read?_isSome_iff {cs : List Char} :
    (Literal.read? cs).isSome = true ↔ cs ∈ literal.matches' := by
  rw [literal, mem_signed, Option.isSome_iff_exists]
  simp only [RegularExpression.matches'_mul, Language.mem_mul, mem_mantissa, mem_exponent]
  constructor
  · rintro ⟨l, hl⟩
    obtain ⟨plusSign, text, hcs, hexponent, hds, hne⟩ := read?_eq_some_iff.mp hl
    refine ⟨l.negative, plusSign, _, ⟨_, ⟨l.whole, l.fraction, rfl, hds, hne⟩, text,
      ⟨l.exponent, hexponent⟩, rfl⟩, ?_⟩
    rw [hcs, List.append_assoc]
  · rintro ⟨negative, plusSign, _, ⟨_, ⟨whole, fraction, rfl, hds, hne⟩, text,
      ⟨exponent, hexponent⟩, rfl⟩, rfl⟩
    refine ⟨⟨negative, whole, fraction, exponent⟩, read?_eq_some_iff.mpr
      ⟨plusSign, text, ?_, hexponent, hds, hne⟩⟩
    rw [List.append_assoc]

example : ['.', '5'] ∈ literal.matches' ∧ ['1', '.'] ∈ literal.matches' ∧
    ['+', '.'] ∉ literal.matches' := by decide

/-- The integer that a sign and digits denote. -/
def integerValue (cs : List Char) : Int :=
  let (negative, ds) := splitSign cs
  if negative then -(ofDigits ds : Int) else ofDigits ds

/-- The ways to write integers are the texts of the grammar, each with its value. -/
theorem writes_iff {cs : List Char} {n : Int} :
    Writes cs n ↔ cs ∈ integer.matches' ∧ n = integerValue cs := by
  simp only [integer, mem_signed, mem_digits]
  constructor
  · rintro ⟨hne, hds, hvalue⟩
    obtain ⟨plusSign, hcs⟩ := exists_signText cs
    exact ⟨⟨_, plusSign, _, ⟨hne, List.all_eq_true.mp hds⟩, hcs⟩, hvalue⟩
  · rintro ⟨⟨negative, plusSign, ds, ⟨hne, hds⟩, rfl⟩, rfl⟩
    have hsplit := splitSign_signText negative plusSign hne hds []
    rw [List.append_nil] at hsplit
    rw [Writes, integerValue, hsplit]
    exact ⟨hne, List.all_eq_true.mpr hds, rfl⟩

theorem eq_of_mem_signText {negative plusSign : Bool} :
    ∀ c ∈ signText negative plusSign, c = '+' ∨ c = '-' := by
  cases negative <;> cases plusSign <;> simp [signText]

/-- **Integers are literals without point and exponent.** -/
theorem mem_integer_iff {cs : List Char} (h : cs ∈ literal.matches') :
    cs ∈ integer.matches' ↔ '.' ∉ cs ∧ 'e' ∉ cs ∧ 'E' ∉ cs := by
  simp only [integer, mem_signed, mem_digits]
  constructor
  · rintro ⟨negative, plusSign, ds, ⟨-, hds⟩, rfl⟩
    have hcs : ∀ c ∈ signText negative plusSign ++ ds, c.isDigit = true ∨ c = '+' ∨ c = '-' :=
      List.forall_mem_append.mpr
        ⟨fun c hc => .inr (eq_of_mem_signText c hc), fun c hc => .inl (hds c hc)⟩
    refine ⟨fun hc => ?_, fun hc => ?_, fun hc => ?_⟩ <;> exact absurd (hcs _ hc) (by decide)
  · rintro ⟨hpoint, he, hE⟩
    obtain ⟨l, hl⟩ := Option.isSome_iff_exists.mp (read?_isSome_iff.mpr h)
    obtain ⟨plusSign, text, rfl, hexponent, hds, hne⟩ := read?_eq_some_iff.mp hl
    obtain ⟨negative, whole, fraction, exponent⟩ := l
    cases fraction with
    | some ds => exact absurd (by simp [fractionText]) hpoint
    | none =>
      rcases readExponent?_eq_some_iff.mp hexponent with ⟨rfl, -⟩ | ⟨mark, _, _, _, hmark, -, -, rfl, -⟩
      · simp only [Option.getD_none, List.append_nil] at hds hne
        exact ⟨negative, plusSign, whole, ⟨hne, hds⟩, by simp [fractionText]⟩
      · rcases hmark with rfl | rfl
        · exact absurd (by simp) he
        · exact absurd (by simp) hE

/-- **The integers are what is read as whole numbers.** -/
theorem whole?_eq_some_iff {cs : List Char} {l : Literal} (h : Literal.read? cs = some l) {n : Int} :
    l.whole? = some n ↔ Writes cs n := by
  constructor
  · intro hwhole
    obtain ⟨negative, whole, fraction, exponent⟩ := l
    obtain ⟨plusSign, text, rfl, hexponent, hds, hne⟩ := read?_eq_some_iff.mp h
    cases fraction with
    | some ds => cases hwhole
    | none =>
      cases exponent with
      | some e => cases hwhole
      | none =>
        rcases readExponent?_eq_some_iff.mp hexponent with ⟨rfl, -⟩ | ⟨_, _, _, _, -, -, -, -, h⟩
        · simp only [Option.getD_none, List.append_nil] at hds hne
          have hsplit := splitSign_signText negative plusSign hne hds []
          simp only [fractionText, List.nil_append]
          rw [Writes, hsplit, List.append_nil]
          exact ⟨hne, List.all_eq_true.mpr hds, (Option.some.inj hwhole).symm⟩
        · cases h
  · intro hwrites
    obtain ⟨l', hl', hwhole⟩ := hwrites.exists_literal
    cases h.symm.trans hl'
    exact hwhole

end GeoScript.Decimal
