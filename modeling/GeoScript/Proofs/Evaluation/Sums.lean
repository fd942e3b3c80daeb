import Mathlib
import GeoScript.Evaluation.Basic

/-! # Sums of whole numbers

Numbers are summed from the left. A sum of whole numbers is whole as long as every sum on the way
fits into 64 bits; the first that does not makes it a floating-point number, and it stays one. So
the order of the summands matters: the exact sum may fit although a sum on the way does not.

* `exactSum`, `PrefixesFit`: the exact sum, and whether all sums on the way fit.
* `sumOf_eq_int_iff`: when a sum of whole numbers is whole, and which number it is then.
* `exists_sumOf_eq_float`, `exists_sumOf_eq_float_of_mem`: when a sum is a floating-point number.
* `forall_perm_prefixesFit_iff`: when the sum is whole in every order.
* `exists_perm_prefixesFit`: in some order it is, if the exact sum fits. -/

namespace GeoScript

/-- The exact sum of some whole numbers. -/
def exactSum (ns : List Int64) : Int := (ns.map Int64.toInt).sum

@[simp] theorem exactSum_nil : exactSum [] = 0 := rfl

@[simp] theorem exactSum_cons (n : Int64) (ns : List Int64) :
    exactSum (n :: ns) = n.toInt + exactSum ns := by
  rw [exactSum, List.map_cons, List.sum_cons, exactSum]

theorem exactSum_perm {ms ns : List Int64} (h : ms.Perm ns) : exactSum ms = exactSum ns :=
  (h.map Int64.toInt).sum_eq

/-- The exact sum of every prefix fits. -/
def PrefixesFit (ns : List Int64) : Prop := ∀ ms, ms <+: ns → fitsInt64 (exactSum ms) = true

instance (ns : List Int64) : Decidable (PrefixesFit ns) :=
  decidable_of_iff (∀ ms ∈ ns.inits, fitsInt64 (exactSum ms) = true)
    (forall_congr' fun ms => imp_congr_left (List.mem_inits ms ns))

/-- The exact sum of every prefix, added to a start, fits. -/
def PrefixesFitFrom (start : Int) (ns : List Int64) : Prop :=
  ∀ ms, ms <+: ns → fitsInt64 (start + exactSum ms) = true

theorem prefixesFitFrom_zero {ns : List Int64} :
    PrefixesFitFrom (Int64.toInt 0) ns ↔ PrefixesFit ns := by
  simp only [PrefixesFitFrom, Int64.toInt_zero, Int.zero_add, PrefixesFit]

theorem prefixesFitFrom_nil {start : Int} : PrefixesFitFrom start [] ↔ fitsInt64 start = true := by
  simp [PrefixesFitFrom, List.prefix_nil]

theorem prefixesFitFrom_cons {start : Int} {n : Int64} {ns : List Int64} :
    PrefixesFitFrom start (n :: ns) ↔
      fitsInt64 start = true ∧ PrefixesFitFrom (start + n.toInt) ns := by
  constructor
  · intro h
    refine ⟨?_, fun ms hms => ?_⟩
    · simpa using h [] List.nil_prefix
    · rw [Int.add_assoc, ← exactSum_cons]
      exact h (n :: ms) (List.prefix_cons_iff.mpr (.inr ⟨ms, rfl, hms⟩))
  · rintro ⟨hstart, hrest⟩ ms hms
    rcases List.prefix_cons_iff.mp hms with rfl | ⟨ks, rfl, hks⟩
    · simpa using hstart
    · rw [exactSum_cons, ← Int.add_assoc]
      exact hrest ks hks

/-! ### Sums from the left -/

theorem exists_foldl_plus_float (ns : List Number) (x : Float) :
    ∃ y, ns.foldl Number.plus (.float x) = .float y := by
  induction ns generalizing x with
  | nil => exact ⟨x, rfl⟩
  | cons n ns ih =>
    cases n with
    | int m => exact ih (x + m.toFloat)
    | float y => exact ih (x + y)

theorem exists_foldl_plus_of_mem {ns : List Number} {x : Float} (h : .float x ∈ ns) (a : Number) :
    ∃ y, ns.foldl Number.plus a = .float y := by
  induction ns generalizing a with
  | nil => cases h
  | cons n ns ih =>
    rw [List.foldl_cons]
    rcases List.mem_cons.mp h with rfl | h
    · obtain ⟨y, hy⟩ := Number.plus_float a x
      rw [hy]
      exact exists_foldl_plus_float ns y
    · exact ih h (Number.plus a n)

theorem foldl_plus_int {m : Int64} {ns : List Int64} (h : PrefixesFitFrom m.toInt ns) :
    (ns.map Number.int).foldl Number.plus (.int m) =
      .int (Int64.ofInt (m.toInt + exactSum ns)) := by
  induction ns generalizing m with
  | nil =>
    rw [exactSum_nil, Int.add_zero, Int64.ofInt_toInt]
    rfl
  | cons n ns ih =>
    obtain ⟨-, hrest⟩ := prefixesFitFrom_cons.mp h
    have hfits : fitsInt64 (m.toInt + n.toInt) = true := by
      simpa using hrest [] List.nil_prefix
    have hsum := toInt_ofInt_of_fits hfits
    rw [List.map_cons, List.foldl_cons, (Number.plus_int_eq_int_iff m n _).mpr ⟨hfits, hsum⟩]
    rw [← hsum] at hrest
    rw [ih hrest, hsum, exactSum_cons, Int.add_assoc]

theorem exists_foldl_plus_int {m : Int64} {ns : List Int64} (h : ¬ PrefixesFitFrom m.toInt ns) :
    ∃ x, (ns.map Number.int).foldl Number.plus (.int m) = .float x := by
  induction ns generalizing m with
  | nil => exact absurd (prefixesFitFrom_nil.mpr (fitsInt64_toInt m)) h
  | cons n ns ih =>
    rw [List.map_cons, List.foldl_cons]
    cases hplus : Number.plus (.int m) (.int n) with
    | int k =>
      obtain ⟨-, hk⟩ := (Number.plus_int_eq_int_iff m n k).mp hplus
      refine ih fun hrest => h ?_
      rw [hk] at hrest
      exact prefixesFitFrom_cons.mpr ⟨fitsInt64_toInt m, hrest⟩
    | float x => exact exists_foldl_plus_float _ x

/-- **A sum of whole numbers is whole exactly if every sum on the way fits,** and then it is the
exact sum. -/
theorem sumOf_eq_int_iff (ns : List Int64) (v : Int64) :
    sumOf (ns.map Number.int) = .int v ↔ PrefixesFit ns ∧ v.toInt = exactSum ns := by
  rw [sumOf, Number.zero, ← prefixesFitFrom_zero]
  by_cases h : PrefixesFitFrom (Int64.toInt 0) ns
  · have hfits := h ns (List.prefix_refl ns)
    rw [foldl_plus_int h, Number.int.injEq, ← Int64.toInt_inj, toInt_ofInt_of_fits hfits,
      Int64.toInt_zero, Int.zero_add]
    exact ⟨fun hv => ⟨h, hv.symm⟩, fun hv => hv.2.symm⟩
  · obtain ⟨x, hx⟩ := exists_foldl_plus_int h
    rw [hx]
    constructor
    · intro heq
      cases heq
    · intro hv
      exact absurd hv.1 h

theorem exists_sumOf_eq_float {ns : List Int64} (h : ¬ PrefixesFit ns) :
    ∃ x, sumOf (ns.map Number.int) = .float x := by
  rw [← prefixesFitFrom_zero] at h
  exact exists_foldl_plus_int h

theorem exists_sumOf_eq_float_of_mem {ns : List Number} {x : Float} (h : .float x ∈ ns) :
    ∃ y, sumOf ns = .float y :=
  exists_foldl_plus_of_mem h Number.zero

/-! ### The order of the summands -/

theorem exactSum_filter_cons (p : Int64 → Bool) (n : Int64) (ns : List Int64) :
    exactSum ((n :: ns).filter p) = (if p n then n.toInt else 0) + exactSum (ns.filter p) := by
  rw [List.filter_cons]
  split
  · exact exactSum_cons n _
  · exact (Int.zero_add _).symm

/-- The exact sum of the positive numbers. -/
def gain (ns : List Int64) : Int := exactSum (ns.filter fun n => 0 < n.toInt)

/-- The exact sum of the negative numbers. -/
def loss (ns : List Int64) : Int := exactSum (ns.filter fun n => n.toInt < 0)

theorem gain_perm {ms ns : List Int64} (h : ms.Perm ns) : gain ms = gain ns :=
  exactSum_perm (h.filter _)

theorem loss_perm {ms ns : List Int64} (h : ms.Perm ns) : loss ms = loss ns :=
  exactSum_perm (h.filter _)

/-- Whatever is left out, the sum is between that of the negative and that of the positive
numbers. -/
theorem exactSum_sublist {ms ns : List Int64} (h : ms.Sublist ns) :
    loss ns ≤ exactSum ms ∧ exactSum ms ≤ gain ns := by
  unfold loss gain
  induction h with
  | slnil => exact ⟨Int.le_refl 0, Int.le_refl 0⟩
  | cons n _ ih =>
    simp only [exactSum_filter_cons, decide_eq_true_eq]
    omega
  | cons_cons n _ ih =>
    simp only [exactSum_filter_cons, exactSum_cons, decide_eq_true_eq]
    omega

/-- **The sum is whole in every order exactly if the positive numbers alone and the negative ones
alone have sums that fit:** with the positive numbers first it goes up to their sum, and with the
negative ones first it goes down to theirs. -/
theorem forall_perm_prefixesFit_iff (ns : List Int64) :
    (∀ ms, ms.Perm ns → PrefixesFit ms) ↔
      fitsInt64 (gain ns) = true ∧ fitsInt64 (loss ns) = true := by
  constructor
  · intro h
    have hup := List.filter_append_perm (fun n : Int64 => decide (0 < n.toInt)) ns
    have hdown := List.filter_append_perm (fun n : Int64 => decide (n.toInt < 0)) ns
    exact ⟨h _ hup _ (List.prefix_append ..), h _ hdown _ (List.prefix_append ..)⟩
  · rintro ⟨hgain, hloss⟩ ms hperm ks hks
    obtain ⟨hlow, hhigh⟩ := exactSum_sublist hks.sublist
    rw [loss_perm hperm] at hlow
    rw [gain_perm hperm] at hhigh
    rw [fitsInt64_iff] at hgain hloss ⊢
    omega

theorem exactSum_nonneg {ns : List Int64} (h : ∀ n ∈ ns, 0 ≤ n.toInt) : 0 ≤ exactSum ns := by
  induction ns with
  | nil => exact Int.le_refl 0
  | cons n ns ih =>
    rw [List.forall_mem_cons] at h
    rw [exactSum_cons]
    exact Int.add_nonneg h.1 (ih h.2)

theorem exactSum_nonpos {ns : List Int64} (h : ∀ n ∈ ns, n.toInt ≤ 0) : exactSum ns ≤ 0 := by
  induction ns with
  | nil => exact Int.le_refl 0
  | cons n ns ih =>
    rw [List.forall_mem_cons] at h
    rw [exactSum_cons]
    exact Int.add_nonpos h.1 (ih h.2)

/-- As long as the exact sum fits, some summand can be next. If none could, all of them would
lead out of the range on the same side, and so would the exact sum. -/
theorem exists_next_of_fits {start : Int} {ns : List Int64} (hne : ns ≠ [])
    (hstart : fitsInt64 start = true) (hend : fitsInt64 (start + exactSum ns) = true) :
    ∃ n ∈ ns, fitsInt64 (start + n.toInt) = true := by
  by_contra hnone
  push Not at hnone
  obtain ⟨n, rest, rfl⟩ := List.exists_cons_of_ne_nil hne
  rw [fitsInt64_iff] at hstart hend
  rw [exactSum_cons] at hend
  have hout : ∀ k ∈ n :: rest, start + k.toInt < -9223372036854775808 ∨
      9223372036854775808 ≤ start + k.toInt := by
    intro k hk
    have h := hnone k hk
    rw [ne_eq, fitsInt64_iff] at h
    omega
  have hbounds (k : Int64) := fitsInt64_iff.mp (fitsInt64_toInt k)
  -- one summand alone leads out of the range only on the side where the start is
  rcases Int.le_total 0 start with hsign | hsign
  · have hup : ∀ k ∈ n :: rest, 9223372036854775808 ≤ start + k.toInt := fun k hk =>
      (hout k hk).resolve_left (by have := hbounds k; omega)
    have hn := hup n List.mem_cons_self
    have hrest := exactSum_nonneg fun k hk => by
      have := hup k (List.mem_cons_of_mem n hk)
      omega
    omega
  · have hdown : ∀ k ∈ n :: rest, start + k.toInt < -9223372036854775808 := fun k hk =>
      (hout k hk).resolve_right (by have := hbounds k; omega)
    have hn := hdown n List.mem_cons_self
    have hrest := exactSum_nonpos fun k hk => by
      have := hdown k (List.mem_cons_of_mem n hk)
      omega
    omega

/-- From a start that fits, the summands can be taken one after the other in some order, if the
exact sum fits. -/
theorem exists_perm_prefixesFitFrom {start : Int} {ns : List Int64}
    (hstart : fitsInt64 start = true) (hend : fitsInt64 (start + exactSum ns) = true) :
    ∃ ms, ms.Perm ns ∧ PrefixesFitFrom start ms := by
  by_cases hne : ns = []
  · exact ⟨[], hne ▸ .refl _, prefixesFitFrom_nil.mpr hstart⟩
  · obtain ⟨n, hn, hnext⟩ := exists_next_of_fits hne hstart hend
    have hperm : ns.Perm (n :: ns.erase n) := List.perm_cons_erase hn
    have hshorter : (ns.erase n).length < ns.length := by
      rw [hperm.length_eq]
      exact Nat.lt_succ_self _
    rw [exactSum_perm hperm, exactSum_cons, ← Int.add_assoc] at hend
    obtain ⟨ms, hms, hfit⟩ := exists_perm_prefixesFitFrom hnext hend
    exact ⟨n :: ms, (hms.cons n).trans hperm.symm, prefixesFitFrom_cons.mpr ⟨hstart, hfit⟩⟩
termination_by ns.length

/-- **In some order the sum is whole, if the exact sum fits.** -/
theorem exists_perm_prefixesFit {ns : List Int64} (h : fitsInt64 (exactSum ns) = true) :
    ∃ ms, ms.Perm ns ∧ PrefixesFit ms := by
  simp only [← prefixesFitFrom_zero]
  exact exists_perm_prefixesFitFrom (fitsInt64_toInt 0) (by rwa [Int64.toInt_zero, Int.zero_add])

end GeoScript
