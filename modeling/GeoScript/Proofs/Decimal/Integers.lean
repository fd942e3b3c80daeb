import GeoScript.Proofs.Decimal.ReadBack

/-! # Integers in decimal

An integer is written as digits, at least one, with a sign before them or not; zeros may stand in
front. What is written for an integer of 64 bits is read as the whole number.

* `Decimal.Writes`, `Decimal.WrittenAs`: the ways to write an integer, and several.
* `Number.read?_of_writes`: it is read again. -/

namespace GeoScript

namespace Decimal

/-- A text is a way to write an integer: digits after an optional sign. -/
def Writes (cs : List Char) (n : Int) : Prop :=
  let (negative, ds) := splitSign cs
  ds ≠ [] ∧ ds.all Char.isDigit = true ∧
    n = if negative then -(ofDigits ds : Int) else ofDigits ds

instance (cs : List Char) (n : Int) : Decidable (Writes cs n) :=
  inferInstanceAs (Decidable (_ ∧ _ ∧ _))

/-- Some 64-bit integers in decimal, with any blanks around them. -/
def WrittenAs (ns : List Int64) (ps : List (List Char)) : Prop :=
  List.Forall₂ (fun p n => Writes (Text.trim p) (Int64.toInt n)) ps ns

instance (ns : List Int64) (ps : List (List Char)) : Decidable (WrittenAs ns ps) :=
  inferInstanceAs (Decidable (List.Forall₂ _ _ _))

/-- What is written for an integer is a literal without point and exponent that denotes it. -/
theorem Writes.exists_literal {cs : List Char} {n : Int} (h : Writes cs n) :
    ∃ l, Literal.read? cs = some l ∧ l.whole? = some n := by
  rw [Writes] at h
  rcases hsign : splitSign cs with ⟨negative, ds⟩
  rw [hsign] at h
  obtain ⟨hne, hds, hvalue⟩ := h
  rw [List.all_eq_true] at hds
  have htake : ds.takeWhile Char.isDigit = ds := List.takeWhile_eq_self_iff.mpr hds
  have hdrop : ds.dropWhile Char.isDigit = [] := List.dropWhile_eq_nil_iff.mpr hds
  refine ⟨⟨negative, ds, none, none⟩, ?_, ?_⟩
  · simp [Literal.read?, hsign, htake, hdrop, splitFraction, readExponent?, hne]
  · simp [Literal.whole?, hvalue]

theorem writes_integerText (n : Int) : Writes (integerText n) n := by
  have hne : Nat.toDigits 10 n.natAbs ≠ [] := Nat.toDigits_ne_nil
  have hsplit : splitSign (integerText n) = (decide (n < 0), Nat.toDigits 10 n.natAbs) := by
    have h := splitSign_signText (decide (n < 0)) false hne isDigit_of_mem_toDigits []
    rw [List.append_nil] at h
    rw [← h, integerText, signText]
    simp
  rw [Writes, hsplit]
  refine ⟨hne, List.all_eq_true.mpr isDigit_of_mem_toDigits, ?_⟩
  rw [ofDigits_toDigits]
  simp only [decide_eq_true_eq]
  split <;> omega

theorem writtenAs_integerText (ns : List Int64) :
    WrittenAs ns (ns.map fun n => integerText n.toInt) := by
  rw [WrittenAs, List.forall₂_map_left_iff, List.forall₂_same]
  intro n _
  have hwrites := writes_integerText n.toInt
  obtain ⟨l, hl, -⟩ := hwrites.exists_literal
  rwa [Text.trim_of_tight (tight_of_read? hl)]

end Decimal

/-- **What is written for a 64-bit integer, with blanks around it, is read as the whole number.** -/
theorem Number.read?_of_writes {cs : List Char} {n : Int64}
    (h : Decimal.Writes (Text.trim cs) n.toInt) : Number.read? cs = some (.int n) := by
  obtain ⟨l, hl, hwhole⟩ := h.exists_literal
  rw [Number.read?, hl, Option.map_some, ofLiteral, hwhole]
  simp only [fitsInt64_toInt n, if_true, Int64.ofInt_toInt]

theorem Number.forall₂_read?_of_writtenAs {ns : List Int64} {ps : List (List Char)}
    (h : Decimal.WrittenAs ns ps) :
    List.Forall₂ (fun p n => Number.read? p = some n) ps (ns.map .int) := by
  rw [List.forall₂_map_right_iff]
  exact h.imp fun _ _ hwrites => Number.read?_of_writes hwrites

end GeoScript
