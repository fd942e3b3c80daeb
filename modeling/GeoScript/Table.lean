/-! # Tables

A table binds names to things, each name at most once. What is bound last stands first, so the
order of a table says nothing about the order in which its names were first bound; whoever needs
that order keeps it beside the table.

`get?_insert` and `get?_erase` say how binding and unbinding change what is found. -/

namespace GeoScript

/-- Names with what they are bound to. -/
structure Table (α : Type) where
  entries : List (String × α)

namespace Table

variable {α : Type}

/-- No bindings. -/
def empty : Table α := ⟨[]⟩

/-- What a name is bound to. -/
def get? (t : Table α) (name : String) : Option α := t.entries.lookup name

/-- Whether a name is bound. -/
def contains (t : Table α) (name : String) : Bool := (t.get? name).isSome

/-- Unbinds a name. -/
def erase (t : Table α) (name : String) : Table α := ⟨t.entries.filter fun e => e.1 != name⟩

/-- Binds a name, in place of what it was bound to before. -/
def insert (t : Table α) (name : String) (a : α) : Table α := ⟨(name, a) :: (t.erase name).entries⟩

@[simp] theorem get?_empty (name : String) : (empty : Table α).get? name = none := rfl

theorem lookup_cons_of_ne {n other : String} (h : other ≠ n) (a : α) (es : List (String × α)) :
    ((n, a) :: es).lookup other = es.lookup other := by
  have hb : (other == n) = false := by simpa using h
  rw [List.lookup_cons, hb]

theorem get?_erase (t : Table α) (name other : String) :
    (t.erase name).get? other = if other = name then none else t.get? other := by
  obtain ⟨entries⟩ := t
  simp only [get?, erase]
  induction entries with
  | nil => simp
  | cons e es ih =>
    obtain ⟨n, a⟩ := e
    by_cases hn : n = name
    · subst hn
      rw [List.filter_cons_of_neg (by simp), ih]
      by_cases ho : other = n
      · simp [ho]
      · rw [if_neg ho, if_neg ho, lookup_cons_of_ne ho]
    · rw [List.filter_cons_of_pos (by simpa using hn)]
      by_cases ho : other = n
      · subst ho
        rw [if_neg hn, List.lookup_cons_self, List.lookup_cons_self]
      · rw [lookup_cons_of_ne ho, lookup_cons_of_ne ho, ih]

theorem get?_insert (t : Table α) (name other : String) (a : α) :
    (t.insert name a).get? other = if other = name then some a else t.get? other := by
  by_cases h : other = name
  · subst h
    rw [if_pos rfl]; exact List.lookup_cons_self
  · have := get?_erase t name other
    rw [if_neg h] at this ⊢
    rw [← this]; exact lookup_cons_of_ne h a _

theorem contains_insert (t : Table α) (name other : String) (a : α) :
    (t.insert name a).contains other = (other == name || t.contains other) := by
  rw [contains, get?_insert]
  by_cases h : other = name <;> simp [h, contains]

end Table

end GeoScript
