import GeoScript.Construction
import Mathlib.Data.List.Nodup

/-! # A construction is a list of bindings

A construction finds figures in a table and keeps the order of its labels beside it. Seen from
outside it is one list of bindings: a label that is bound again keeps its place, a new one goes to
the end, and removing a label takes out its binding and nothing else.

* `Bindings.put`, `Bindings.takeOut`: what the list does, by recursion on the list alone.
* `Construction.Edit`, `runAll`: the changes from outside, and any number of them.
* `Construction.Represents`: the table and the order are those of a list. `represents_edit` is the
  step, `runAll_induction` the run, and `Represents.shows` what can be seen.
* `Construction.refines_bindings`: the main statement. -/

namespace GeoScript

/-! ### Lists of bindings -/

/-- Labels with their figures, in the order in which the labels were first bound. -/
abbrev Bindings := List (String × List Figure)

namespace Bindings

/-- Binds a label in its place, or else at the end. -/
def put (label : String) (figures : List Figure) : Bindings → Bindings
  | [] => [(label, figures)]
  | b :: bs => if b.1 = label then (label, figures) :: bs else b :: put label figures bs

/-- Takes out the binding of a label. -/
def takeOut (label : String) : Bindings → Bindings
  | [] => []
  | b :: bs => if b.1 = label then bs else b :: takeOut label bs

/-- Whether a label is bound. -/
def holds (label : String) (bs : Bindings) : Bool := bs.any fun b => b.1 == label

/-- No label is bound twice, none is blank, and none stands for nothing. -/
structure Proper (bs : Bindings) : Prop where
  nodup : (bs.map Prod.fst).Nodup
  named : ∀ b ∈ bs, Text.isEmptyText b.1 = false
  filled : ∀ b ∈ bs, b.2 ≠ []

variable {label : String} {figures : List Figure} {bs : Bindings}

theorem holds_eq_true_iff : holds label bs = true ↔ label ∈ bs.map Prod.fst := by
  simp [holds]

theorem holds_eq_isSome_lookup (label : String) (bs : Bindings) :
    holds label bs = (bs.lookup label).isSome := by
  rw [Bool.eq_iff_iff, List.lookup_isSome_iff, holds, List.any_eq_true]
  simp only [beq_iff_eq, eq_comm (a := label)]

/-- A label that is bound keeps its place, and every other one goes to the end. -/
theorem map_fst_put (label : String) (figures : List Figure) (bs : Bindings) :
    (put label figures bs).map Prod.fst =
      if holds label bs then bs.map Prod.fst else bs.map Prod.fst ++ [label] := by
  induction bs with
  | nil => rfl
  | cons b bs ih =>
    by_cases hb : b.1 = label
    · simp [put, holds, hb]
    · rw [put, if_neg hb, List.map_cons, ih]
      have hholds : holds label (b :: bs) = holds label bs := by simp [holds, hb]
      rw [hholds, List.map_cons]
      split <;> rfl

theorem lookup_put (label other : String) (figures : List Figure) (bs : Bindings) :
    (put label figures bs).lookup other =
      if other = label then some figures else bs.lookup other := by
  induction bs with
  | nil =>
    by_cases ho : other = label
    · subst ho
      rw [put, if_pos rfl, List.lookup_cons_self]
    · rw [put, if_neg ho, Table.lookup_cons_of_ne ho]
  | cons b bs ih =>
    obtain ⟨l, old⟩ := b
    by_cases hl : l = label
    · subst hl
      rw [put, if_pos rfl]
      by_cases ho : other = l
      · subst ho
        rw [if_pos rfl, List.lookup_cons_self]
      · rw [if_neg ho, Table.lookup_cons_of_ne ho, Table.lookup_cons_of_ne ho]
    · rw [put, if_neg hl]
      by_cases ho : other = l
      · subst ho
        rw [if_neg hl, List.lookup_cons_self, List.lookup_cons_self]
      · rw [Table.lookup_cons_of_ne ho, Table.lookup_cons_of_ne ho, ih]

theorem put_of_not_holds (h : holds label bs = false) :
    put label figures bs = bs ++ [(label, figures)] := by
  induction bs with
  | nil => rfl
  | cons b bs ih =>
    rw [holds, List.any_cons, Bool.or_eq_false_iff, beq_eq_false_iff_ne] at h
    rw [put, if_neg h.1, ih h.2, List.cons_append]

theorem mem_put {b : String × List Figure} (h : b ∈ put label figures bs) :
    b = (label, figures) ∨ b ∈ bs := by
  induction bs with
  | nil => exact .inl (List.mem_singleton.mp h)
  | cons c bs ih =>
    rw [put] at h
    split at h
    · exact (List.mem_cons.mp h).imp_right (List.mem_cons_of_mem c)
    · rcases List.mem_cons.mp h with rfl | h
      · exact .inr List.mem_cons_self
      · exact (ih h).imp_right (List.mem_cons_of_mem c)

theorem takeOut_eq_filter (h : (bs.map Prod.fst).Nodup) (label : String) :
    takeOut label bs = bs.filter fun b => b.1 != label := by
  induction bs with
  | nil => rfl
  | cons b bs ih =>
    rw [List.map_cons, List.nodup_cons] at h
    by_cases hb : b.1 = label
    · have hrest : ∀ c ∈ bs, (c.1 != label) = true := by
        intro c hc
        rw [bne_iff_ne]
        intro hcl
        exact h.1 (List.mem_map.mpr ⟨c, hc, hcl.trans hb.symm⟩)
      rw [takeOut, if_pos hb, List.filter_cons_of_neg (by simp [hb]), List.filter_eq_self.mpr hrest]
    · rw [takeOut, if_neg hb, List.filter_cons_of_pos (by simp [hb]), ih h.2]

theorem filterMap_lookup (h : (bs.map Prod.fst).Nodup) :
    ((bs.map Prod.fst).filterMap fun l => (bs.lookup l).map fun figures => (l, figures)) = bs := by
  induction bs with
  | nil => rfl
  | cons b bs ih =>
    rw [List.map_cons, List.nodup_cons] at h
    obtain ⟨l, figures⟩ := b
    have hrest : ((bs.map Prod.fst).filterMap fun m =>
          (List.lookup m ((l, figures) :: bs)).map fun found => (m, found)) =
        (bs.map Prod.fst).filterMap fun m => (bs.lookup m).map fun found => (m, found) := by
      refine List.filterMap_congr fun m hm => ?_
      have hne : m ≠ l := by
        rintro rfl
        exact h.1 hm
      rw [Table.lookup_cons_of_ne hne]
    rw [List.map_cons, List.filterMap_cons_some (b := (l, figures)) (by simp), hrest, ih h.2]

theorem Proper.put (h : Proper bs) (hlabel : Text.isEmptyText label = false)
    (hfigures : figures ≠ []) : Proper (put label figures bs) := by
  refine ⟨?_, fun b hb => ?_, fun b hb => ?_⟩
  · rw [map_fst_put]
    split
    · exact h.nodup
    · next hholds =>
      rw [holds_eq_true_iff] at hholds
      rw [← List.concat_eq_append]
      exact List.Nodup.concat hholds h.nodup
  · rcases mem_put hb with rfl | hb
    · exact hlabel
    · exact h.named b hb
  · rcases mem_put hb with rfl | hb
    · exact hfigures
    · exact h.filled b hb

theorem Proper.takeOut (h : Proper bs) (label : String) : Proper (takeOut label bs) := by
  rw [takeOut_eq_filter h.nodup]
  have hmem : ∀ b ∈ bs.filter fun b => b.1 != label, b ∈ bs := fun b hb => (List.mem_filter.mp hb).1
  exact ⟨h.nodup.sublist (List.filter_sublist.map _), fun b hb => h.named b (hmem b hb),
    fun b hb => h.filled b (hmem b hb)⟩

end Bindings

/-! ### Edits -/

/-- A change of a construction from outside. -/
inductive Construction.Edit where
  | bind (label : String) (figures : List Figure)
  | remove (label : String)
  | clear
  | suppress (suppressed : Bool)

/-- What an edit answers: a binding may be refused, and a removal tells whether the label was
bound. -/
inductive Construction.Answer where
  | done
  | refused (problem : InputProblem)
  | removed (wasBound : Bool)

/-- What an edit of a construction answers, and what it leaves. -/
def Construction.edit (c : Construction) : Edit → Answer × Construction
  | .bind label figures =>
    match c.bind? label figures with
    | .error problem => (.refused problem, c)
    | .ok bound => (.done, bound)
  | .remove label => (.removed (!c.isFree label), c.remove label)
  | .clear => (.done, c.clear)
  | .suppress suppressed => (.done, { c with suppressed })

/-- What an edit of a list of bindings answers, and what it leaves. Whether labels are to be bound
by evaluations makes no difference to it. -/
def Bindings.edit (bs : Bindings) : Construction.Edit → Construction.Answer × Bindings
  | .bind label figures =>
    if label.toList.all Text.isBlank then (.refused .emptyLabel, bs)
    else match figures with
      | [] => (.refused (.emptyResult label), bs)
      | f :: fs => (.done, put label (f :: fs) bs)
  | .remove label => (.removed (holds label bs), takeOut label bs)
  | .clear => (.done, [])
  | .suppress _ => (.done, bs)

namespace Bindings

variable {label : String} {figures : List Figure} {bs : Bindings}

theorem all_isBlank_eq (label : String) :
    label.toList.all Text.isBlank = Text.isEmptyText label := by
  rw [Bool.eq_iff_iff, List.all_eq_true, Text.isEmptyText, List.isEmpty_iff, Text.trim_eq_nil_iff]

theorem edit_bind_blank (h : Text.isEmptyText label = true) :
    bs.edit (.bind label figures) = (.refused .emptyLabel, bs) := by
  simp [edit, all_isBlank_eq, h]

theorem edit_bind_nothing (h : Text.isEmptyText label = false) :
    bs.edit (.bind label []) = (.refused (.emptyResult label), bs) := by
  simp [edit, all_isBlank_eq, h]

theorem edit_bind (h : Text.isEmptyText label = false) (hfigures : figures ≠ []) :
    bs.edit (.bind label figures) = (.done, put label figures bs) := by
  obtain ⟨f, fs, rfl⟩ := List.exists_cons_of_ne_nil hfigures
  simp [edit, all_isBlank_eq, h]

theorem put_takeOut (h : Proper bs) (label : String) (figures : List Figure) :
    put label figures (takeOut label bs) =
      (bs.filter fun b => b.1 != label) ++ [(label, figures)] := by
  rw [takeOut_eq_filter h.nodup]
  refine put_of_not_holds ?_
  rw [holds, List.any_eq_false]
  intro b hb
  simpa using (List.mem_filter.mp hb).2

end Bindings

namespace Construction

/-- The answers to some edits, one after the other, and what they leave. -/
def runAll {σ : Type} (step : σ → Edit → Answer × σ) : σ → List Edit → List Answer × σ
  | s, [] => ([], s)
  | s, e :: es =>
    let (answer, t) := step s e
    let (answers, last) := runAll step t es
    (answer :: answers, last)

theorem runAll_append {σ : Type} (step : σ → Edit → Answer × σ) (s : σ) (es fs : List Edit) :
    (runAll step s (es ++ fs)).2 = (runAll step (runAll step s es).2 fs).2 := by
  induction es generalizing s with
  | nil => rfl
  | cons e es ih => exact ih (step s e).2

/-- **Two ways to make an edit that answer alike and keep a relation** answer alike, and keep the
relation, over any number of edits. -/
theorem runAll_induction {σ τ : Type} {R : σ → τ → Prop} {step : σ → Edit → Answer × σ}
    {step' : τ → Edit → Answer × τ}
    (hstep : ∀ {s t}, R s t → ∀ e, (step s e).1 = (step' t e).1 ∧ R (step s e).2 (step' t e).2)
    {s : σ} {t : τ} (h : R s t) (es : List Edit) :
    (runAll step s es).1 = (runAll step' t es).1 ∧
      R (runAll step s es).2 (runAll step' t es).2 := by
  induction es generalizing s t with
  | nil => exact ⟨rfl, h⟩
  | cons e es ih =>
    obtain ⟨hanswer, hrelated⟩ := hstep h e
    obtain ⟨hanswers, hlast⟩ := ih hrelated
    exact ⟨List.cons_eq_cons.mpr ⟨hanswer, hanswers⟩, hlast⟩

/-! ### The list behind a construction -/

/-- The table and the order of a construction are those of a list of bindings. -/
structure Represents (c : Construction) (bs : Bindings) : Prop where
  labels_eq : c.labels = bs.map Prod.fst
  get?_eq : ∀ l, c.get? l = bs.lookup l
  proper : bs.Proper

/-- Everything that can be seen of a construction is the same of a list of bindings. -/
structure Shows (c : Construction) (bs : Bindings) : Prop where
  labels_eq : c.labels = bs.map Prod.fst
  elements_eq : c.elements = bs
  get?_eq : ∀ l, c.get? l = bs.lookup l
  isFree_eq : ∀ l, c.isFree l = !Bindings.holds l bs
  size_eq : c.size = bs.length
  isEmpty_eq : (c.size == 0) = bs.isEmpty

section Represents

variable {c : Construction} {bs : Bindings}

theorem Represents.isFree_eq (h : c.Represents bs) (l : String) :
    c.isFree l = !Bindings.holds l bs := by
  rw [Bindings.holds_eq_isSome_lookup, ← h.get?_eq]
  rfl

/-- **What can be seen of a construction is seen of the list behind it.** -/
theorem Represents.shows (h : c.Represents bs) : c.Shows bs where
  labels_eq := h.labels_eq
  elements_eq := by
    simp only [elements, h.labels_eq, h.get?_eq]
    exact Bindings.filterMap_lookup h.proper.nodup
  get?_eq := h.get?_eq
  isFree_eq := h.isFree_eq
  size_eq := by rw [size, h.labels_eq, List.length_map]
  isEmpty_eq := by
    rw [size, h.labels_eq, List.length_map]
    cases bs <;> rfl

theorem represents_clear (c : Construction) : c.clear.Represents [] :=
  ⟨rfl, fun _ => rfl, List.nodup_nil, by simp, by simp⟩

theorem represents_empty : empty.Represents [] := represents_clear empty

theorem Represents.bind (h : c.Represents bs) {label : String} {figures : List Figure}
    (hlabel : Text.isEmptyText label = false) (hfigures : figures ≠ []) :
    (c.bind label figures).Represents (Bindings.put label figures bs) where
  labels_eq := by
    rw [Bindings.map_fst_put, Construction.bind, h.isFree_eq, h.labels_eq]
    cases Bindings.holds label bs <;> rfl
  get?_eq l := by rw [get?_bind, Bindings.lookup_put, h.get?_eq]
  proper := h.proper.put hlabel hfigures

theorem Represents.remove (h : c.Represents bs) (label : String) :
    (c.remove label).Represents (Bindings.takeOut label bs) where
  labels_eq := by
    rw [Construction.remove, h.labels_eq, Bindings.takeOut_eq_filter h.proper.nodup,
      List.filter_map]
    rfl
  get?_eq l := by
    have hfilter := Table.get?_erase ⟨bs⟩ label l
    rw [get?_remove, h.get?_eq, Bindings.takeOut_eq_filter h.proper.nodup]
    exact hfilter.symm
  proper := h.proper.takeOut label

/-- **Every edit** is answered alike by a construction and by the list behind it, which is behind
the construction afterwards, too. -/
theorem represents_edit (h : c.Represents bs) (e : Edit) :
    (c.edit e).1 = (bs.edit e).1 ∧ (c.edit e).2.Represents (bs.edit e).2 := by
  cases e with
  | bind label figures =>
    rw [edit, bind?, refusal?]
    cases hlabel : Text.isEmptyText label with
    | true =>
      rw [Bindings.edit_bind_blank hlabel]
      exact ⟨rfl, h⟩
    | false =>
      cases figures with
      | nil =>
        rw [Bindings.edit_bind_nothing hlabel]
        exact ⟨rfl, h⟩
      | cons f fs =>
        rw [Bindings.edit_bind hlabel (List.cons_ne_nil f fs)]
        exact ⟨rfl, h.bind hlabel (List.cons_ne_nil f fs)⟩
  | remove label =>
    refine ⟨?_, h.remove label⟩
    rw [edit, Bindings.edit, h.isFree_eq, Bool.not_not]
  | clear => exact ⟨rfl, represents_clear c⟩
  | suppress suppressed => exact ⟨rfl, h.labels_eq, h.get?_eq, h.proper⟩

end Represents

/-! ### The main statement -/

/-- **A construction is a list of bindings.** After any number of edits, every one of them was
answered as the list answers it, everything that can be seen of the construction is seen of the
list, and the list binds no label twice, no blank label, and none to nothing. A label that is
removed and bound again goes to the end. -/
theorem refines_bindings (es : List Edit) :
    let done := runAll edit .empty es
    let list := runAll Bindings.edit [] es
    done.1 = list.1 ∧ done.2.Shows list.2 ∧ list.2.Proper ∧
      ∀ label figures, Text.isEmptyText label = false → figures ≠ [] →
        (runAll edit .empty (es ++ [.remove label, .bind label figures])).2.elements =
          (list.2.filter fun b => b.1 != label) ++ [(label, figures)] := by
  intro done list
  obtain ⟨hanswers, hrepresents⟩ := runAll_induction represents_edit represents_empty es
  refine ⟨hanswers, hrepresents.shows, hrepresents.proper, fun label figures hlabel hfigures => ?_⟩
  have hagain := (runAll_induction represents_edit represents_empty
    (es ++ [.remove label, .bind label figures])).2.shows.elements_eq
  rw [hagain, runAll_append, ← Bindings.put_takeOut hrepresents.proper]
  exact congrArg Prod.snd (Bindings.edit_bind hlabel hfigures)

end Construction

end GeoScript
