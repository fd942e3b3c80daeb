/-! # Chains of filters

A chain holds filters in the order in which they were attached. Attaching a filter gives a handle,
by which it can be detached; handles are numbered and no number is given twice.

* `Chain.add`, `Chain.remove`: attach, detach.
* `Chain.filters`: the attached filters.
* `Chain.add_remove`: a filter that was just attached can be detached without a trace, but for the
  number that it used up. -/

namespace GeoScript.Filter

/-- What attaching a filter gives, to detach it again. -/
structure Handle where
  number : Nat
deriving DecidableEq

/-- Filters in the order of their attachment, with the number of the next handle. -/
structure Chain (α : Type) where
  next : Nat
  entries : List (Handle × α)

namespace Chain

variable {α : Type}

/-- No filters, and no handle given yet. -/
def empty : Chain α := { next := 0, entries := [] }

/-- The handle that the next attachment gives. -/
def nextHandle (chain : Chain α) : Handle := ⟨chain.next⟩

/-- Attaches a filter at the end. -/
def add (chain : Chain α) (filter : α) : Chain α :=
  { next := chain.next + 1, entries := chain.entries ++ [(chain.nextHandle, filter)] }

/-- Whether a handle is that of an attached filter. -/
def holds (chain : Chain α) (handle : Handle) : Bool := chain.entries.any fun e => e.1 == handle

/-- Detaches the filter of a handle, if it is attached. -/
def remove (chain : Chain α) (handle : Handle) : Chain α :=
  { chain with entries := chain.entries.filter fun e => e.1 != handle }

/-- The attached filters, in order. -/
def filters (chain : Chain α) : List α := chain.entries.map Prod.snd

/-- How many filters are attached. -/
def size (chain : Chain α) : Nat := chain.entries.length

/-- Whether no filter is attached. -/
def isEmpty (chain : Chain α) : Bool := chain.entries.isEmpty

@[simp] theorem filters_empty : (empty : Chain α).filters = [] := rfl

@[simp] theorem filters_add (chain : Chain α) (filter : α) :
    (chain.add filter).filters = chain.filters ++ [filter] := by
  simp [filters, add]

/-- Every handle in use was given before the next one. -/
def Numbered (chain : Chain α) : Prop := ∀ e ∈ chain.entries, e.1.number < chain.next

theorem numbered_empty : (empty : Chain α).Numbered := by
  intro e he; cases he

theorem Numbered.add {chain : Chain α} (h : chain.Numbered) (filter : α) :
    (chain.add filter).Numbered := by
  intro e he
  simp only [Chain.add, List.mem_append, List.mem_singleton] at he ⊢
  rcases he with he | rfl
  · exact Nat.lt_succ_of_lt (h e he)
  · exact Nat.lt_succ_self _

theorem Numbered.remove {chain : Chain α} (h : chain.Numbered) (handle : Handle) :
    (chain.remove handle).Numbered :=
  fun e he => h e (List.mem_filter.1 he).1

/-- **Detaching what was just attached leaves the filters as they were.** -/
theorem add_remove {chain : Chain α} (h : chain.Numbered) (filter : α) :
    ((chain.add filter).remove chain.nextHandle).entries = chain.entries := by
  have hkeep : chain.entries.filter (fun e => e.1 != chain.nextHandle) = chain.entries := by
    rw [List.filter_eq_self]
    intro e he
    have hlt := h e he
    have hne : e.1 ≠ chain.nextHandle := by
      intro heq
      rw [heq] at hlt
      exact Nat.lt_irrefl _ hlt
    simpa using hne
  simp [remove, add, List.filter_append, hkeep]

end Chain

end GeoScript.Filter
