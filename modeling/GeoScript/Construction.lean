import GeoScript.Figure
import GeoScript.Table

/-! # Constructions

A construction is what a session has made so far: labels, each bound to the figures it stands for.
Labels are listed in the order in which they were first bound; binding one again keeps its place,
and removing it gives the place up. A table finds the figures of a label, and the order is kept
beside it.

* `Construction.bind?`, `remove`, `clear`: the changes.
* `Construction.get?`, `isFree`, `labels`, `elements`: what can be seen.
* `Construction.WellFormed`: the order lists exactly the bound labels, each once; every change keeps
  it. -/

namespace GeoScript

/-- Labels with the figures they stand for. -/
structure Construction where
  results : Table (List Figure)
  labels : List String
  /-- While this is set, evaluations bind no labels. -/
  suppressed : Bool

namespace Construction

/-- No labels. -/
def empty : Construction := { results := .empty, labels := [], suppressed := false }

/-- The figures that a label stands for. -/
def get? (c : Construction) (label : String) : Option (List Figure) := c.results.get? label

/-- Whether a label is not bound. -/
def isFree (c : Construction) (label : String) : Bool := !c.results.contains label

/-- How many labels are bound. -/
def size (c : Construction) : Nat := c.labels.length

/-- The labels with their figures, in order. -/
def elements (c : Construction) : List (String × List Figure) :=
  c.labels.filterMap fun l => (c.get? l).map fun figures => (l, figures)

/-- Binds a label to some figures, in place of what it stood for. -/
def bind (c : Construction) (label : String) (figures : List Figure) : Construction :=
  { c with
    results := c.results.insert label figures
    labels := if c.isFree label then c.labels ++ [label] else c.labels }

/-- Why a binding is refused, if it is: the label must not be blank and there must be figures. -/
def refusal? (label : String) (figures : List Figure) : Option InputProblem :=
  if Text.isEmptyText label then some .emptyLabel
  else if figures.isEmpty then some (.emptyResult label)
  else none

/-- Binds a label to some figures, or refuses to. -/
def bind? (c : Construction) (label : String) (figures : List Figure) :
    Except InputProblem Construction :=
  match refusal? label figures with
  | some problem => .error problem
  | none => .ok (c.bind label figures)

/-- Removes a label, if it is bound. -/
def remove (c : Construction) (label : String) : Construction :=
  { c with results := c.results.erase label, labels := c.labels.filter fun l => l != label }

/-- Removes every label. -/
def clear (c : Construction) : Construction := { c with results := .empty, labels := [] }

/-! ### The order lists the bound labels -/

/-- The order lists exactly the bound labels, and none twice. -/
structure WellFormed (c : Construction) : Prop where
  nodup : c.labels.Nodup
  mem_iff : ∀ l, l ∈ c.labels ↔ c.isFree l = false

theorem isFree_eq_false_iff (c : Construction) (l : String) :
    c.isFree l = false ↔ ∃ figures, c.get? l = some figures := by
  simp only [isFree, Table.contains, Bool.not_eq_false', get?]
  exact Option.isSome_iff_exists

theorem get?_bind (c : Construction) (label other : String) (figures : List Figure) :
    (c.bind label figures).get? other = if other = label then some figures else c.get? other :=
  Table.get?_insert ..

theorem get?_remove (c : Construction) (label other : String) :
    (c.remove label).get? other = if other = label then none else c.get? other :=
  Table.get?_erase ..

theorem wellFormed_empty : empty.WellFormed :=
  ⟨List.nodup_nil, fun l => by simp [empty, isFree, Table.contains]⟩

theorem WellFormed.clear {c : Construction} : c.clear.WellFormed :=
  ⟨List.nodup_nil, fun l => by simp [Construction.clear, isFree, Table.contains]⟩

theorem WellFormed.bind {c : Construction} (h : c.WellFormed) (label : String)
    (figures : List Figure) : (c.bind label figures).WellFormed := by
  have hfree : ∀ l, (c.bind label figures).isFree l = false ↔ l = label ∨ c.isFree l = false := by
    intro l
    rw [isFree_eq_false_iff, isFree_eq_false_iff]
    by_cases hl : l = label <;> simp [get?_bind, hl]
  by_cases hf : c.isFree label
  · have hn : label ∉ c.labels := by rw [h.mem_iff, hf]; decide
    have hlabels : (c.bind label figures).labels = c.labels ++ [label] := by
      simp [Construction.bind, hf]
    refine ⟨?_, fun l => ?_⟩
    · rw [hlabels, List.nodup_append]
      exact ⟨h.nodup, by simp, fun a ha b hb => by
        rintro rfl; rw [List.mem_singleton.1 hb] at ha; exact hn ha⟩
    · rw [hlabels, hfree, List.mem_append, List.mem_singleton, h.mem_iff]
      exact Or.comm
  · have hlabels : (c.bind label figures).labels = c.labels := by simp [Construction.bind, hf]
    refine ⟨by rw [hlabels]; exact h.nodup, fun l => ?_⟩
    rw [hlabels, hfree, h.mem_iff]
    constructor
    · exact Or.inr
    · rintro (rfl | hl)
      · simpa using hf
      · exact hl

theorem WellFormed.remove {c : Construction} (h : c.WellFormed) (label : String) :
    (c.remove label).WellFormed := by
  refine ⟨h.nodup.filter _, fun l => ?_⟩
  rw [isFree_eq_false_iff]
  by_cases hl : l = label
  · simp [Construction.remove, hl, get?, Table.get?_erase]
  · have := (h.mem_iff l).trans (c.isFree_eq_false_iff l)
    rw [get?_remove, if_neg hl, ← this]
    simp [Construction.remove, hl]

end Construction

end GeoScript
