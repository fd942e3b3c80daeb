import GeoScript.Proofs.Decimal.Bits
import GeoScript.Proofs.Decimal.Grammar

/-! # Which texts are numbers

A number can be told from other texts in stages, with the usual parsers of floating-point numbers
and of integers: the text must start, after its sign, with a digit or a point; it must be a
floating-point number to the one parser, which would also take the names of the infinities and of
the undefined number; and it is whole if it has no point and is an integer to the other parser,
which refuses what does not fit. Reading literals in one go comes to the same
(`Number.read?_eq_readInStages`), so three parsers with different grammars make up one grammar.

* `Grammar.float`, `parseFloat?`, `parseInt64?`: the two parsers.
* `Number.readInStages`: the stages.
* `Number.read?_eq_int_iff`: what is read as a whole number.
* `numerals_are_recognised`: the main statement. -/

namespace GeoScript

namespace Decimal

/-! ### The parsers -/

namespace Grammar

/-- A word, each letter of it small or capital. -/
def word (cs : List Char) : RegularExpression Char := (cs.map fun c => oneOf [c, c.toUpper]).prod

/-- The names of numbers that have no digits. -/
def name : RegularExpression Char :=
  word ['i', 'n', 'f'] + word ['i', 'n', 'f', 'i', 'n', 'i', 't', 'y'] + word ['n', 'a', 'n']

/-- Digits with a point before, among or after them, or without. -/
def number : RegularExpression Char :=
  digits + digits * (.char '.' * digit.star) + digit.star * (.char '.' * digits)

/-- A floating-point number, by name or in digits. -/
def float : RegularExpression Char := signed (name + number * perhaps exponent)

end Grammar

open Grammar

/-- There is a digit before or after the point. -/
theorem Grammar.matches'_number : number.matches' = mantissa.matches' := by
  ext x
  rw [mem_mantissa, number, RegularExpression.matches'_add, Language.mem_add,
    RegularExpression.matches'_add, Language.mem_add, RegularExpression.matches'_mul digits,
    Language.mem_mul, RegularExpression.matches'_mul digit.star, Language.mem_mul]
  simp only [mem_digits, mem_star_digit, mem_char_mul]
  constructor
  · rintro ((⟨hne, hds⟩ | ⟨whole, ⟨hne, hwhole⟩, _, ⟨ds, hds, rfl⟩, rfl⟩) |
      ⟨whole, hwhole, _, ⟨ds, ⟨hne, hds⟩, rfl⟩, rfl⟩)
    · exact ⟨x, none, by simp [fractionText], by simpa using hds, by simpa using hne⟩
    · exact ⟨whole, some ds, rfl, List.forall_mem_append.mpr ⟨hwhole, hds⟩,
        fun h => hne (List.append_eq_nil_iff.mp h).1⟩
    · exact ⟨whole, some ds, rfl, List.forall_mem_append.mpr ⟨hwhole, hds⟩,
        fun h => hne (List.append_eq_nil_iff.mp h).2⟩
  · rintro ⟨whole, fraction, rfl, hds, hne⟩
    obtain ⟨hwhole, hfraction⟩ := List.forall_mem_append.mp hds
    cases fraction with
    | none =>
      simp only [fractionText, Option.getD_none, List.append_nil] at hne hds ⊢
      exact .inl (.inl ⟨hne, hds⟩)
    | some ds =>
      by_cases hnil : whole = []
      · subst hnil
        exact .inr ⟨[], List.forall_mem_nil _, _, ⟨ds, ⟨hne, hfraction⟩, rfl⟩, rfl⟩
      · exact .inl (.inr ⟨whole, ⟨hnil, hwhole⟩, _, ⟨ds, hfraction, rfl⟩, rfl⟩)

/-- A floating-point number is a name, with a sign or without, or a literal. -/
theorem Grammar.mem_float {cs : List Char} :
    cs ∈ Grammar.float.matches' ↔ cs ∈ (signed name).matches' ∨ cs ∈ literal.matches' := by
  have hsum : Grammar.float.matches' = (signed name).matches' + literal.matches' := by
    rw [Grammar.float, literal, signed, signed, signed]
    simp only [RegularExpression.matches'_mul, RegularExpression.matches'_add, matches'_number,
      mul_add]
  rw [hsum, Language.mem_add]

/-- The floating-point number with a name or a literal. -/
def floatValue (cs : List Char) : Float :=
  match Literal.read? cs with
  | some l => l.toFloat
  | none =>
    let (negative, letters) := splitSign cs
    if letters.head? = some 'n' ∨ letters.head? = some 'N' then Float.nan
    else ofMagnitude negative infinite

/-- The parser of floating-point numbers. -/
def parseFloat? (cs : List Char) : Option Float :=
  if cs ∈ Grammar.float.matches' then some (floatValue cs) else none

/-- The parser of integers of 64 bits. -/
def parseInt64? (cs : List Char) : Option Int64 :=
  if cs ∈ integer.matches' ∧ fitsInt64 (integerValue cs) = true then
    some (Int64.ofInt (integerValue cs))
  else none

/-- Whether a digit or a point comes first, after a sign. -/
def startsNumber (cs : List Char) : Bool :=
  (splitSign cs).2.head?.any fun c => c.isDigit || c == '.'

/-! ### The first character -/

theorem startsNumber_of_literal {cs : List Char} (h : cs ∈ literal.matches') :
    startsNumber cs = true := by
  obtain ⟨l, hl⟩ := Option.isSome_iff_exists.mp (read?_isSome_iff.mpr h)
  obtain ⟨plusSign, text, rfl, -, hds, hne⟩ := read?_eq_some_iff.mp hl
  obtain ⟨c, hc, hfirst⟩ := exists_head?_of_digits text hds hne
  rw [startsNumber, splitSign_parts _ _ text hds hne, hc]
  rcases hfirst with hdigit | rfl
  · simp [hdigit]
  · rfl

theorem exists_head?_of_word {c : Char} {cs x : List Char} (h : x ∈ (word (c :: cs)).matches') :
    x.head? = some c ∨ x.head? = some c.toUpper := by
  have hword : word (c :: cs) = oneOf [c, c.toUpper] * word cs := rfl
  rw [hword, RegularExpression.matches'_mul, Language.mem_mul] at h
  obtain ⟨_, hfirst, y, -, rfl⟩ := h
  obtain ⟨d, hd, rfl⟩ := mem_oneOf.mp hfirst
  rcases List.mem_pair.mp hd with rfl | rfl
  · exact .inl rfl
  · exact .inr rfl

theorem exists_head?_of_name {x : List Char} (h : x ∈ name.matches') :
    ∃ c ∈ ['i', 'I', 'n', 'N'], x.head? = some c := by
  rw [name, RegularExpression.matches'_add, Language.mem_add, RegularExpression.matches'_add,
    Language.mem_add] at h
  rcases h with (h | h) | h <;> rcases exists_head?_of_word h with h | h
  all_goals exact ⟨_, by decide, h⟩

theorem startsNumber_of_name {cs : List Char} (h : cs ∈ (signed name).matches') :
    startsNumber cs = false := by
  obtain ⟨negative, plusSign, y, hy, rfl⟩ := mem_signed.mp h
  obtain ⟨c, hc, hfirst⟩ := exists_head?_of_name hy
  have hsplit : splitSign (signText negative plusSign ++ y) = (negative, y) := by
    refine splitSign_append negative plusSign fun d hd => ?_
    cases hfirst.symm.trans hd
    have hall : ∀ c ∈ ['i', 'I', 'n', 'N'], c ≠ '+' ∧ c ≠ '-' := by simp
    exact hall c hc
  have hall : ∀ c ∈ ['i', 'I', 'n', 'N'], (c.isDigit || c == '.') = false := by simp [Char.isDigit]
  rw [startsNumber, hsplit, hfirst]
  exact hall c hc

end Decimal

open Decimal Decimal.Grammar

/-- Reads a number between blanks in stages. -/
def Number.readInStages (cs : List Char) : Option Number :=
  let text := Text.trim cs
  if startsNumber text then
    (parseFloat? text).map fun x =>
      if '.' ∈ text then .float x else ((parseInt64? text).map .int).getD (.float x)
  else none

/-! ### Reading -/

namespace Number

theorem ofLiteral_of_read? {text : List Char} {l : Literal} (h : Literal.read? text = some l) :
    ofLiteral l =
      if text ∈ integer.matches' ∧ fitsInt64 (integerValue text) = true then
        .int (Int64.ofInt (integerValue text))
      else .float l.toFloat := by
  have hwhole : ∀ n, l.whole? = some n ↔ text ∈ integer.matches' ∧ n = integerValue text :=
    fun n => (whole?_eq_some_iff h).trans writes_iff
  unfold ofLiteral
  split
  · next n hn =>
    obtain ⟨hinteger, rfl⟩ := (hwhole n).mp hn
    simp only [hinteger, true_and]
  · next hnone =>
    refine (if_neg fun ⟨hinteger, _⟩ => ?_).symm
    cases hnone.symm.trans ((hwhole _).mpr ⟨hinteger, rfl⟩)

/-- **Reading literals in one go** comes to the same as reading in stages. -/
theorem read?_eq_readInStages (cs : List Char) : Number.read? cs = Number.readInStages cs := by
  unfold Number.read? Number.readInStages
  generalize Text.trim cs = text
  dsimp only
  cases hread : Literal.read? text with
  | none =>
    have hliteral : text ∉ literal.matches' := by
      rw [← read?_isSome_iff, hread]
      decide
    -- Beyond the literals the parser takes names only, and those do not start like a number.
    split
    · next hstarts =>
      have hfloat : text ∉ Grammar.float.matches' := by
        rintro h
        rcases mem_float.mp h with h | h
        · exact absurd (startsNumber_of_name h) (Bool.not_eq_false _ ▸ hstarts)
        · exact hliteral h
      rw [parseFloat?, if_neg hfloat]
      rfl
    · rfl
  | some l =>
    have hliteral : text ∈ literal.matches' := by
      rw [← read?_isSome_iff, hread]
      rfl
    have hvalue : floatValue text = l.toFloat := by
      unfold floatValue
      rw [hread]
    have hfloat : parseFloat? text = some l.toFloat := by
      rw [parseFloat?, if_pos (mem_float.mpr (.inr hliteral)), hvalue]
    rw [if_pos (startsNumber_of_literal hliteral), hfloat, Option.map_some, Option.map_some]
    congr 1
    -- An integer has no point, so looking for one first makes no difference.
    rw [ofLiteral_of_read? hread, parseInt64?]
    split
    · next hinteger =>
      rw [if_neg ((mem_integer_iff hliteral).mp hinteger.1).1]
      rfl
    · split <;> rfl

/-- **Whole numbers** are read from integers that fit. -/
theorem read?_eq_int_iff {cs : List Char} {k : Int64} :
    Number.read? cs = some (.int k) ↔
      Text.trim cs ∈ integer.matches' ∧ integerValue (Text.trim cs) = k.toInt := by
  constructor
  · intro h
    obtain ⟨l, hl, hk⟩ := Option.map_eq_some_iff.mp h
    rw [ofLiteral_of_read? hl] at hk
    split at hk
    · next hinteger =>
      cases hk
      exact ⟨hinteger.1, (toInt_ofInt_of_fits hinteger.2).symm⟩
    · cases hk
  · rintro ⟨hinteger, hvalue⟩
    exact read?_of_writes (writes_iff.mpr ⟨hinteger, hvalue.symm⟩)

theorem exists_read?_eq_int_iff {cs : List Char} :
    (∃ k, Number.read? cs = some (.int k)) ↔
      Text.trim cs ∈ integer.matches' ∧ fitsInt64 (integerValue (Text.trim cs)) = true := by
  simp only [read?_eq_int_iff, exists_and_left]
  refine and_congr_right fun _ => ⟨?_, fun hfits => ?_⟩
  · rintro ⟨k, hk⟩
    rw [hk]
    exact fitsInt64_toInt k
  · exact ⟨_, (toInt_ofInt_of_fits hfits).symm⟩

/-- **Floating-point numbers** are read from all other literals. -/
theorem exists_read?_eq_float_iff {cs : List Char} :
    (∃ x, Number.read? cs = some (.float x)) ↔
      Text.trim cs ∈ literal.matches' ∧
        ¬ (Text.trim cs ∈ integer.matches' ∧
          fitsInt64 (integerValue (Text.trim cs)) = true) := by
  rw [← exists_read?_eq_int_iff, ← read?_isSome_iff, Number.read?]
  cases hread : Literal.read? (Text.trim cs) with
  | none => simp
  | some l =>
    rw [Option.map_some]
    cases ofLiteral l <;> simp

theorem isNaN_of_read? {cs : List Char} {x : Float} (h : Number.read? cs = some (.float x)) :
    x.isNaN = false := by
  obtain ⟨l, hl, hx⟩ := Option.map_eq_some_iff.mp h
  rw [ofLiteral_of_read? hl] at hx
  split at hx
  · cases hx
  · cases hx
    exact l.isNaN_toFloat

end Number

/-! ### The main statement -/

/-- **Numerals are recognised** exactly. A text is read as a number just if it is a literal, blanks
around it left out; as a whole number just if it is an integer of 64 bits, and then as this integer;
and as a floating-point number if it is any other literal, since it has a point or an exponent or
does not fit. What is written for a whole number is read as this number, no text is read as the
undefined number, and the three parsers in stages read the same. -/
theorem numerals_are_recognised (cs : List Char) :
    ((Number.read? cs).isSome = true ↔ Text.trim cs ∈ literal.matches') ∧
      (∀ k : Int64, Number.read? cs = some (.int k) ↔
        Text.trim cs ∈ integer.matches' ∧ integerValue (Text.trim cs) = k.toInt) ∧
      ((∃ k, Number.read? cs = some (.int k)) ↔
        Text.trim cs ∈ integer.matches' ∧ -2 ^ 63 ≤ integerValue (Text.trim cs) ∧
          integerValue (Text.trim cs) ≤ 2 ^ 63 - 1) ∧
      ((∃ x, Number.read? cs = some (.float x)) ↔
        Text.trim cs ∈ literal.matches' ∧
          ('.' ∈ Text.trim cs ∨ 'e' ∈ Text.trim cs ∨ 'E' ∈ Text.trim cs ∨
            integerValue (Text.trim cs) < -2 ^ 63 ∨ 2 ^ 63 - 1 < integerValue (Text.trim cs))) ∧
      (∀ k : Int64, Number.read? (integerText k.toInt) = some (.int k)) ∧
      (∀ x, Number.read? cs = some (.float x) → x.isNaN = false) ∧
      Number.read? cs = Number.readInStages cs := by
  have hfits : fitsInt64 (integerValue (Text.trim cs)) = true ↔
      -2 ^ 63 ≤ integerValue (Text.trim cs) ∧ integerValue (Text.trim cs) ≤ 2 ^ 63 - 1 := by
    rw [fitsInt64_iff]
    omega
  refine ⟨?_, fun _ => Number.read?_eq_int_iff, ?_, ?_, fun k => ?_,
    fun _ => Number.isNaN_of_read?, Number.read?_eq_readInStages cs⟩
  · rw [Number.read?, Option.isSome_map, read?_isSome_iff]
  · rw [Number.exists_read?_eq_int_iff, hfits]
  · rw [Number.exists_read?_eq_float_iff]
    refine and_congr_right fun hliteral => ?_
    rw [mem_integer_iff hliteral, hfits]
    constructor
    · intro h
      by_contra hother
      simp only [not_or, not_lt] at hother
      obtain ⟨hpoint, he, hE, hlow, hhigh⟩ := hother
      exact h ⟨⟨hpoint, he, hE⟩, hlow, hhigh⟩
    · rintro h ⟨⟨hpoint, he, hE⟩, hlow, hhigh⟩
      rcases h with h | h | h | h | h
      · exact hpoint h
      · exact he h
      · exact hE h
      · exact absurd hlow (not_le_of_gt h)
      · exact absurd hhigh (not_le_of_gt h)
  · exact @Number.read?_display (.int k) trivial

/-- A literal without digits before its point, after a blank. -/
theorem numerals_are_recognised_fraction :
    let cs := [' ', '-', '.', '5', 'e', '1']
    let l : Literal := ⟨true, [], some ['5'], some (false, ['1'])⟩
    Number.read? cs = some (.float l.toFloat) ∧ l.toFloat.isNaN = false ∧
      Text.trim cs ∈ literal.matches' ∧ ¬ ∃ k, Number.read? cs = some (.int k) := by
  intro cs l
  have hread : Number.read? cs = some (.float l.toFloat) := rfl
  obtain ⟨hsome, -, -, -, -, hnan, -⟩ := numerals_are_recognised cs
  refine ⟨hread, hnan _ hread, hsome.mp (by rw [hread]; rfl), ?_⟩
  rintro ⟨k, hk⟩
  cases hread.symm.trans hk

end GeoScript
