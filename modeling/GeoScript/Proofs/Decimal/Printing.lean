import GeoScript.Decimal.Literal

/-! # Literals as they are written

A literal is written as a sign or none, digits, a point and digits or none, and an exponent or none.
No part can be mistaken for the beginning of the next, so every text is a literal in one way at
most: what is read from it are its parts (`read?_eq_some_iff`). The literals of finite numbers have
digits before the point (`Literal.Proper`) and are written in one way.

* `readExponent?_eq_some_iff`, `read?_eq_some_iff`: the texts that are read.
* `read?_write`: what is written for a proper literal is read as this literal.
* `isNumeric_of_read?`: only digits, points, signs and exponent marks can be read as a literal. -/

namespace GeoScript.Decimal

/-! ### Writing -/

/-- A sign, where it is written. -/
def signText (negative plusSign : Bool) : List Char :=
  if negative then ['-'] else if plusSign then ['+'] else []

/-- A point and the digits after it, if there is a point. -/
def fractionText : Option (List Char) → List Char
  | none => []
  | some ds => '.' :: ds

/-- An exponent, if there is one. `plusSign` says whether it gets a sign if it is positive. -/
def exponentText (plusSign : Bool) : Option (Bool × List Char) → List Char
  | none => []
  | some (negative, ds) => 'e' :: (signText negative plusSign ++ ds)

/-- The text of a literal. -/
def Literal.write (plusSign : Bool) (l : Literal) : List Char :=
  signText l.negative false ++
    (l.whole ++ (fractionText l.fraction ++ exponentText plusSign l.exponent))

/-- Every part of a literal is made of digits, and only the fraction may be empty. -/
structure Literal.Proper (l : Literal) : Prop where
  whole_ne_nil : l.whole ≠ []
  whole : ∀ c ∈ l.whole, c.isDigit = true
  fraction : ∀ ds, l.fraction = some ds → ∀ c ∈ ds, c.isDigit = true
  exponent : ∀ s ds, l.exponent = some (s, ds) → ds ≠ [] ∧ ∀ c ∈ ds, c.isDigit = true

/-! ### Signs and digits -/

theorem exists_signText (cs : List Char) :
    ∃ plusSign, cs = signText (splitSign cs).1 plusSign ++ (splitSign cs).2 := by
  unfold splitSign
  split
  · exact ⟨true, rfl⟩
  · exact ⟨false, rfl⟩
  · exact ⟨false, rfl⟩

theorem splitSign_append (negative plusSign : Bool) {rest : List Char}
    (hrest : ∀ c, rest.head? = some c → c ≠ '+' ∧ c ≠ '-') :
    splitSign (signText negative plusSign ++ rest) = (negative, rest) := by
  have hnone : splitSign rest = (false, rest) := by
    unfold splitSign
    split
    · exact absurd rfl (hrest '+' rfl).1
    · exact absurd rfl (hrest '-' rfl).2
    · rfl
  cases negative with
  | true => rfl
  | false =>
    cases plusSign with
    | true => rfl
    | false => exact hnone

theorem ne_sign_of_isDigit {c : Char} (h : c.isDigit = true) : c ≠ '+' ∧ c ≠ '-' := by
  constructor <;> rintro rfl <;> exact absurd h (by decide)

theorem splitSign_signText (negative plusSign : Bool) {ds : List Char} (hne : ds ≠ [])
    (hds : ∀ c ∈ ds, c.isDigit = true) (rest : List Char) :
    splitSign (signText negative plusSign ++ (ds ++ rest)) = (negative, ds ++ rest) := by
  obtain ⟨d, ds, rfl⟩ := List.exists_cons_of_ne_nil hne
  refine splitSign_append negative plusSign fun c hc => ?_
  cases hc
  exact ne_sign_of_isDigit (hds d List.mem_cons_self)

section Digits

variable {ds rest : List Char} (hds : ∀ c ∈ ds, c.isDigit = true)
  (hrest : ∀ c, rest.head? = some c → c.isDigit = false)

include hds hrest

theorem takeWhile_isDigit : (ds ++ rest).takeWhile Char.isDigit = ds := by
  rw [List.takeWhile_append_of_pos hds]
  cases rest with
  | nil => simp
  | cons c rest => simp [hrest c rfl]

theorem dropWhile_isDigit : (ds ++ rest).dropWhile Char.isDigit = rest := by
  rw [List.dropWhile_append_of_pos hds]
  cases rest with
  | nil => rfl
  | cons c rest => simp [hrest c rfl]

end Digits

theorem isDigit_of_mem_takeWhile {cs : List Char} :
    ∀ c ∈ cs.takeWhile Char.isDigit, c.isDigit = true :=
  List.all_eq_true.mp List.all_takeWhile

/-! ### Parts that are read -/

/-- **The exponents that are read:** none, or a mark, a sign and digits. -/
theorem readExponent?_eq_some_iff {cs : List Char} {e : Option (Bool × List Char)} :
    readExponent? cs = some e ↔
      (cs = [] ∧ e = none) ∨
        ∃ mark negative plusSign ds, (mark = 'e' ∨ mark = 'E') ∧ ds ≠ [] ∧
          (∀ d ∈ ds, d.isDigit = true) ∧ cs = mark :: (signText negative plusSign ++ ds) ∧
          e = some (negative, ds) := by
  constructor
  · intro h
    cases cs with
    | nil => exact .inl ⟨rfl, (Option.some.inj h).symm⟩
    | cons mark cs =>
      obtain ⟨plusSign, hcs⟩ := exists_signText cs
      simp only [readExponent?] at h
      split at h
      · next hcond =>
        simp only [Bool.and_eq_true, Bool.or_eq_true, beq_iff_eq, Bool.not_eq_true',
          List.isEmpty_eq_false_iff, List.all_eq_true] at hcond
        obtain ⟨⟨hmark, hne⟩, hds⟩ := hcond
        exact .inr ⟨mark, _, plusSign, _, hmark, hne, hds, congrArg _ hcs,
          (Option.some.inj h).symm⟩
      · cases h
  · rintro (⟨rfl, rfl⟩ | ⟨mark, negative, plusSign, ds, hmark, hne, hds, rfl, rfl⟩)
    · rfl
    · have hsplit := splitSign_signText negative plusSign hne hds []
      rw [List.append_nil] at hsplit
      have hall : ds.all Char.isDigit = true := List.all_eq_true.mpr hds
      rcases hmark with rfl | rfl <;> simp [readExponent?, hsplit, hne, hall]

theorem head?_of_readExponent? {cs : List Char} {e : Option (Bool × List Char)}
    (h : readExponent? cs = some e) : ∀ c, cs.head? = some c → c.isDigit = false ∧ c ≠ '.' := by
  rintro c hc
  rcases readExponent?_eq_some_iff.mp h with ⟨rfl, -⟩ | ⟨mark, _, _, _, hmark, -, -, rfl, -⟩
  · cases hc
  · cases hc
    rcases hmark with rfl | rfl <;> decide

theorem splitFraction_append {fraction : Option (List Char)} {rest : List Char}
    (hds : ∀ c ∈ fraction.getD [], c.isDigit = true)
    (hrest : ∀ c, rest.head? = some c → c.isDigit = false ∧ c ≠ '.') :
    splitFraction (fractionText fraction ++ rest) = (fraction, rest) := by
  have hdigit := fun c hc => (hrest c hc).1
  cases fraction with
  | none =>
    rw [fractionText, List.nil_append]
    unfold splitFraction
    split
    · exact absurd rfl (hrest '.' rfl).2
    · rfl
  | some ds =>
    have hds' : ∀ c ∈ ds, c.isDigit = true := hds
    rw [fractionText, List.cons_append, splitFraction, takeWhile_isDigit hds' hdigit,
      dropWhile_isDigit hds' hdigit]

/-- What is split off is a fraction of digits, and the rest follows it. -/
theorem splitFraction_spec (cs : List Char) :
    cs = fractionText (splitFraction cs).1 ++ (splitFraction cs).2 ∧
      ∀ c ∈ (splitFraction cs).1.getD [], c.isDigit = true := by
  unfold splitFraction
  split
  · exact ⟨congrArg _ List.takeWhile_append_dropWhile.symm, isDigit_of_mem_takeWhile⟩
  · exact ⟨rfl, List.forall_mem_nil _⟩

theorem exists_head?_of_digits {whole : List Char} {fraction : Option (List Char)}
    (text : List Char) (hds : ∀ c ∈ whole ++ fraction.getD [], c.isDigit = true)
    (hne : whole ++ fraction.getD [] ≠ []) :
    ∃ c, (whole ++ (fractionText fraction ++ text)).head? = some c ∧
      (c.isDigit = true ∨ c = '.') := by
  cases whole with
  | cons d ds => exact ⟨d, rfl, .inl (hds d List.mem_cons_self)⟩
  | nil =>
    cases fraction with
    | none => exact absurd rfl hne
    | some ds => exact ⟨'.', rfl, .inr rfl⟩

theorem splitSign_parts (negative plusSign : Bool) {whole : List Char}
    {fraction : Option (List Char)} (text : List Char)
    (hds : ∀ c ∈ whole ++ fraction.getD [], c.isDigit = true)
    (hne : whole ++ fraction.getD [] ≠ []) :
    splitSign (signText negative plusSign ++ (whole ++ (fractionText fraction ++ text))) =
      (negative, whole ++ (fractionText fraction ++ text)) := by
  obtain ⟨c, hc, hfirst⟩ := exists_head?_of_digits text hds hne
  refine splitSign_append negative plusSign fun d hd => ?_
  cases hc.symm.trans hd
  rcases hfirst with hdigit | rfl
  · exact ne_sign_of_isDigit hdigit
  · decide

/-- **The texts of a literal,** part by part: a sign, digits, a fraction and an exponent, with a
digit before the exponent. -/
theorem read?_eq_some_iff {cs : List Char} {l : Literal} :
    Literal.read? cs = some l ↔
      ∃ plusSign text,
        cs = signText l.negative plusSign ++ (l.whole ++ (fractionText l.fraction ++ text)) ∧
        readExponent? text = some l.exponent ∧
        (∀ c ∈ l.whole ++ l.fraction.getD [], c.isDigit = true) ∧
        l.whole ++ l.fraction.getD [] ≠ [] := by
  constructor
  · intro h
    obtain ⟨plusSign, hsign⟩ := exists_signText cs
    unfold Literal.read? at h
    dsimp only at h
    generalize (splitSign cs).2 = unsigned at h hsign
    obtain ⟨hrest, hfraction⟩ := splitFraction_spec (unsigned.dropWhile Char.isDigit)
    have hunsigned : unsigned.takeWhile Char.isDigit ++ unsigned.dropWhile Char.isDigit =
        unsigned := List.takeWhile_append_dropWhile
    split at h
    · cases h
    · next hempty =>
      obtain ⟨exponent, hexponent, rfl⟩ := Option.map_eq_some_iff.mp h
      refine ⟨plusSign, _, ?_, hexponent, ?_, ?_⟩
      · rw [← hrest, hunsigned]
        exact hsign
      · exact List.forall_mem_append.mpr ⟨isDigit_of_mem_takeWhile, hfraction⟩
      · simpa [List.append_eq_nil_iff] using hempty
  · -- Each part is split off completely, because what follows it cannot belong to it.
    rintro ⟨plusSign, text, rfl, hexponent, hds, hne⟩
    obtain ⟨negative, whole, fraction, exponent⟩ := l
    obtain ⟨hwhole, hfraction⟩ := List.forall_mem_append.mp hds
    have hstop := head?_of_readExponent? hexponent
    have hpoint : ∀ c, (fractionText fraction ++ text).head? = some c → c.isDigit = false := by
      intro c hc
      cases fraction with
      | none => exact (hstop c hc).1
      | some ds => cases hc; decide
    have hempty : (whole.isEmpty && (fraction.getD []).isEmpty) = false := by
      rw [Bool.eq_false_iff, ne_eq, Bool.and_eq_true, List.isEmpty_iff, List.isEmpty_iff]
      exact fun h => hne (List.append_eq_nil_iff.mpr h)
    unfold Literal.read?
    dsimp only
    rw [splitSign_parts negative plusSign text hds hne]
    dsimp only
    rw [takeWhile_isDigit hwhole hpoint, dropWhile_isDigit hwhole hpoint,
      splitFraction_append hfraction hstop]
    dsimp only
    rw [hempty, hexponent]
    rfl

/-! ### Reading back -/

theorem readExponent?_write (plusSign : Bool) {e : Option (Bool × List Char)}
    (he : ∀ s ds, e = some (s, ds) → ds ≠ [] ∧ ∀ c ∈ ds, c.isDigit = true) :
    readExponent? (exponentText plusSign e) = some e := by
  rw [readExponent?_eq_some_iff]
  cases e with
  | none => exact .inl ⟨rfl, rfl⟩
  | some p =>
    obtain ⟨hne, hds⟩ := he p.1 p.2 rfl
    exact .inr ⟨'e', p.1, plusSign, p.2, .inl rfl, hne, hds, rfl, rfl⟩

/-- **What is written for a proper literal is read as this literal.** -/
theorem read?_write (plusSign : Bool) {l : Literal} (h : l.Proper) :
    Literal.read? (l.write plusSign) = some l := by
  rw [read?_eq_some_iff]
  refine ⟨false, exponentText plusSign l.exponent, rfl, readExponent?_write plusSign h.exponent,
    List.forall_mem_append.mpr ⟨h.whole, fun c hc => ?_⟩,
    fun hnil => h.whole_ne_nil (List.append_eq_nil_iff.mp hnil).1⟩
  cases hfraction : l.fraction with
  | none =>
    rw [hfraction] at hc
    cases hc
  | some ds =>
    rw [hfraction] at hc
    exact h.fraction ds hfraction c hc

/-! ### The characters of a literal -/

/-- A character that literals can have. -/
def isNumeric (c : Char) : Bool :=
  c.isDigit || c == '.' || c == '+' || c == '-' || c == 'e' || c == 'E'

theorem isNumeric_of_isDigit {c : Char} (h : c.isDigit = true) : isNumeric c = true := by
  simp [isNumeric, h]

theorem isNumeric_signText (negative plusSign : Bool) :
    ∀ c ∈ signText negative plusSign, isNumeric c = true := by
  cases negative <;> cases plusSign <;> simp [signText, isNumeric]

theorem isNumeric_fractionText {fraction : Option (List Char)}
    (h : ∀ c ∈ fraction.getD [], c.isDigit = true) :
    ∀ c ∈ fractionText fraction, isNumeric c = true := by
  cases fraction with
  | none => exact List.forall_mem_nil _
  | some ds => exact List.forall_mem_cons.mpr ⟨rfl, fun c hc => isNumeric_of_isDigit (h c hc)⟩

theorem isNumeric_of_readExponent? {cs : List Char} {e : Option (Bool × List Char)}
    (h : readExponent? cs = some e) : ∀ c ∈ cs, isNumeric c = true := by
  rcases readExponent?_eq_some_iff.mp h with ⟨rfl, -⟩ | ⟨mark, negative, plusSign, ds, hmark, -,
    hds, rfl, -⟩
  · exact List.forall_mem_nil _
  · refine List.forall_mem_cons.mpr ⟨?_, List.forall_mem_append.mpr
      ⟨isNumeric_signText negative plusSign, fun c hc => isNumeric_of_isDigit (hds c hc)⟩⟩
    rcases hmark with rfl | rfl <;> rfl

/-- **Only digits, points, signs and exponent marks can be read as a literal.** -/
theorem isNumeric_of_read? {cs : List Char} {l : Literal} (h : Literal.read? cs = some l) :
    ∀ c ∈ cs, isNumeric c = true := by
  obtain ⟨plusSign, text, rfl, hexponent, hds, -⟩ := read?_eq_some_iff.mp h
  obtain ⟨hwhole, hfraction⟩ := List.forall_mem_append.mp hds
  exact List.forall_mem_append.mpr ⟨isNumeric_signText _ _, List.forall_mem_append.mpr
    ⟨fun c hc => isNumeric_of_isDigit (hwhole c hc), List.forall_mem_append.mpr
      ⟨isNumeric_fractionText hfraction, isNumeric_of_readExponent? hexponent⟩⟩⟩

end GeoScript.Decimal
