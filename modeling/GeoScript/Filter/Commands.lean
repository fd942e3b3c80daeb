import GeoScript.Catalog.Command

/-! # Filters on commands

A command filter says of a command whether it may run at all. Filters are built from allow-lists,
gates on categories and tests of any other kind; `all` combines some filters into one.

* `CommandFilter.allows`: the verdict.
* `CommandFilter.allows_all`: the verdict of a combination is that of its parts together. -/

namespace GeoScript

/-- A permission rule for commands. -/
inductive CommandFilter where
  /-- Only the listed commands, as in an exam. -/
  | only (commands : List Command)
  /-- No command of the category, unless the gate is open. -/
  | gate (category : Category) (isOpen : Bool)
  /-- What passes every one of some filters. -/
  | all (filters : List CommandFilter)
  /-- What passes a test. -/
  | test (allows : Command → Bool)

namespace CommandFilter

/-- The gate on the commands of computer algebra. -/
def cas (isOpen : Bool) : CommandFilter := .gate .cas isOpen

mutual

/-- Whether a command may run. -/
def allows : CommandFilter → Command → Bool
  | .only commands, c => commands.contains c
  | .gate category isOpen, c => isOpen || c.category != category
  | .all filters, c => allAllow filters c
  | .test allows, c => allows c

/-- Whether a command passes every one of some filters. -/
def allAllow : List CommandFilter → Command → Bool
  | [], _ => true
  | f :: fs, c => f.allows c && allAllow fs c

end

theorem allAllow_eq_all (filters : List CommandFilter) (c : Command) :
    allAllow filters c = filters.all fun f => f.allows c := by
  induction filters with
  | nil => rfl
  | cons f fs ih => simp [allAllow, ih]

theorem allows_all (filters : List CommandFilter) (c : Command) :
    (all filters).allows c = filters.all fun f => f.allows c := by
  rw [allows, allAllow_eq_all]

end CommandFilter

end GeoScript
