import GeoScript.Evaluation.Definitions
import GeoScript.Proofs.Evaluation.Call
import GeoScript.Proofs.Labels.Binding
import GeoScript.Proofs.Labels.Root
import GeoScript.Proofs.Traversal

/-! # Faults in words of their own

A fault that refuses the arguments of a call may bring words of its own. Its record shows these
words and not the message that all such faults have. No processor that there is to start with
raises one, and no filter but a test of arguments can, so whoever finds one in an evaluation has
installed a processor, or attached a test, that did.

* `Fault.ownWords?`, `Fault.render_record_eq`: the words, and what the record makes of them.
* `Processor.IsPlain`, `ArgumentFilter.IsPlain`, `Engine.IsPlain`: who raises no such faults.
* `isPlain_initial`, `isPlain_processor`, `isPlain_of_tests`: what there is to start with, and what
  definitions and filters add to it.
* `evaluate_plain`, `bindLabels_plain`: where the faults of an evaluation come from. -/

namespace GeoScript

/-- The words of its own that a fault brings, if it does. -/
def Fault.ownWords? : Fault → Option String
  | .illegalArgument _ _ message => message
  | _ => none

/-- **A fault's record reads as the fault,** or in the fault's own words. -/
theorem Fault.render_record_eq (f : Fault) : f.record.render = f.ownWords?.getD f.message := by
  cases f with
  | illegalArgument command arguments message => cases message <;> rfl
  | _ => rfl

/-! ### Processors -/

/-- A processor that raises no fault in words of its own. -/
def Processor.IsPlain (p : Processor) : Prop :=
  ∀ c arguments options fault, (p c arguments options).answer = .error fault →
    fault.ownWords? = none

theorem checkCount_plain {command : String} {vs : List Value} {least : Nat} {greatest : Option Nat}
    {fault : Fault} (h : checkCount command vs least greatest = .error fault) :
    fault.ownWords? = none := by
  unfold checkCount at h
  dsimp only at h
  split at h
  · cases h
    rfl
  · split at h
    · cases h
    · split at h <;> cases h
      rfl

theorem isPlain_basicProcessor : Processor.IsPlain basicProcessor := by
  intro c arguments options fault h
  unfold basicProcessor at h
  cases hcount : checkCount c.name arguments 1 (some 10) with
  | error fault' =>
    rw [hcount] at h
    cases h
    exact checkCount_plain hcount
  | ok u =>
    rw [hcount] at h
    have hcompute : compute c (Value.resolveAll arguments) = .error fault := h
    unfold compute at hcompute
    split at hcompute
    · split at hcompute <;> cases hcompute
      rfl
    · cases hcompute
      rfl

theorem isPlain_processor {definitions : Definitions}
    (h : ∀ name definition, definitions.get? name = some definition →
      ∀ arguments options fault, definition.apply arguments options = .error fault →
        fault.ownWords? = none) : definitions.processor.IsPlain := by
  intro c arguments options fault hfault
  unfold Definitions.processor at hfault
  cases hget : definitions.get? c.name with
  | none =>
    rw [hget] at hfault
    cases hfault
    rfl
  | some definition =>
    rw [hget] at hfault
    exact h c.name definition hget arguments options fault hfault

/-! ### Filters on arguments -/

namespace ArgumentFilter

/-- A filter that raises no fault in words of its own. -/
def IsPlain (f : ArgumentFilter) : Prop :=
  ∀ command vs fault, f.check command vs = .error fault → fault.ownWords? = none

mutual

/-- The tests in a filter. -/
def tests : ArgumentFilter → List (String → List Value → Except Fault Unit)
  | .count _ _ | .types _ => []
  | .all filters => allTests filters
  | .test check => [check]

/-- The tests in some filters. -/
def allTests : List ArgumentFilter → List (String → List Value → Except Fault Unit)
  | [] => []
  | f :: fs => f.tests ++ allTests fs

end

theorem checkTypes_plain {command : String} {ts : List ArgumentType} {vs : List Value}
    {fault : Fault} {index : Nat} (h : checkTypes command index ts vs = .error fault) :
    fault.ownWords? = none := by
  induction ts generalizing index vs with
  | nil => cases h
  | cons t ts ih =>
    cases vs with
    | nil => cases h
    | cons v vs =>
      rw [checkTypes] at h
      split at h
      · exact ih h
      · cases h
        rfl

mutual

/-- **Only a test raises a fault in words of its own.** -/
theorem check_plain {command : String} {vs : List Value} {fault : Fault} :
    ∀ f : ArgumentFilter, f.check command vs = .error fault →
      fault.ownWords? = none ∨ ∃ t ∈ f.tests, t command vs = .error fault
  | .count least greatest, h => .inl (checkCount_plain (by rwa [check] at h))
  | .types expected, h => .inl (checkTypes_plain (by rwa [check] at h))
  | .all filters, h => by
    rw [check] at h
    rw [tests]
    exact checkAll_plain filters h
  | .test accepts, h => by
    rw [check] at h
    exact .inr ⟨accepts, List.mem_singleton_self accepts, h⟩

theorem checkAll_plain {command : String} {vs : List Value} {fault : Fault} :
    ∀ fs : List ArgumentFilter, checkAll fs command vs = .error fault →
      fault.ownWords? = none ∨ ∃ t ∈ allTests fs, t command vs = .error fault
  | [], h => by cases h
  | f :: fs, h => by
    rw [checkAll] at h
    rw [allTests]
    cases hf : f.check command vs with
    | error fault' =>
      rw [hf] at h
      cases h
      exact (check_plain f hf).imp_right fun ⟨t, ht, hfault⟩ =>
        ⟨t, List.mem_append_left _ ht, hfault⟩
    | ok u =>
      rw [hf] at h
      exact (checkAll_plain fs h).imp_right fun ⟨t, ht, hfault⟩ =>
        ⟨t, List.mem_append_right _ ht, hfault⟩

end

theorem isPlain_of_tests {f : ArgumentFilter}
    (h : ∀ t ∈ f.tests, ∀ command vs fault, t command vs = .error fault → fault.ownWords? = none) :
    f.IsPlain := by
  intro command vs fault hfault
  rcases f.check_plain hfault with hnone | ⟨t, ht, hraised⟩
  · exact hnone
  · exact h t ht command vs fault hraised

end ArgumentFilter

/-! ### Engines -/

/-- An engine whose processors and filters on arguments are all plain. -/
structure Engine.IsPlain (e : Engine) : Prop where
  processors : ∀ name p, e.processors.get? name = some p → p.IsPlain
  filters : ∀ f ∈ e.argumentFilters.filters, f.IsPlain

theorem Engine.isPlain_initial : Engine.initial.IsPlain where
  processors name p h := by
    rw [eq_basicProcessor_of_initial h]
    exact isPlain_basicProcessor
  filters f hf := by cases hf

theorem Engine.IsPlain.register {e : Engine} (he : e.IsPlain) (name : String) {p : Processor}
    (hp : p.IsPlain) : (e.register name p).IsPlain where
  processors := forall_register he.processors name hp
  filters := he.filters

theorem Engine.IsPlain.addArgumentFilter {e : Engine} (he : e.IsPlain) {f : ArgumentFilter}
    (hf : f.IsPlain) : (e.addArgumentFilter f).IsPlain where
  processors := he.processors
  filters g hg := by
    rw [Engine.addArgumentFilter, Filter.Chain.filters_add, List.mem_append] at hg
    rcases hg with hg | hg
    · exact he.filters g hg
    · rw [List.mem_singleton.mp hg]
      exact hf

theorem Engine.call_plain {e : Engine} {name : String} {arguments : List Value} {options : Options}
    {fault : Fault} (he : e.IsPlain) (h : (e.call name arguments options).answer = .error fault) :
    fault.ownWords? = none := by
  rcases call_error h with rfl | rfl | ⟨f, hf, hfault⟩ | ⟨c, p, hp, hfault⟩
  · rfl
  · rfl
  · exact he.filters f hf name arguments fault hfault
  · exact he.processors name p hp c arguments options fault hfault

/-! ### Evaluations -/

theorem ofValue_plain {v : Value} {fault : Fault} (h : Figure.ofValue v = .error fault) :
    fault.ownWords? = none := by
  cases v <;> cases h
  rfl

theorem simpleFigure_plain {e : Expr} {fault : Fault} (h : simpleFigure e = .error fault) :
    fault.ownWords? = none := by
  unfold simpleFigure at h
  split at h
  case h_4 => exact ofValue_plain h
  all_goals cases h <;> rfl

/-- **A fault of an evaluation without labels** has no words of its own, unless a call has ended by
it. -/
theorem evaluate_plain {engine : Engine} {options : Options} (hl : options.labels = false)
    (hr : options.redefinition = true) (e : Expr) (c : Construction) {fault : Fault}
    (h : (evaluate engine options e c).answer = .error fault) :
    fault.ownWords? = none ∨
      ∃ name arguments, (engine.call name arguments options).answer = .error fault := by
  induction e using evaluate.induct with
  | case1 rhs l children ih =>
    -- The label is not bound here, so the fault is that of the expression under it.
    refine ih ?_
    rw [(evaluate_quiet c hl hr engine _).2, Expr.root, ← (evaluate_quiet c hl hr engine _).2] at h
    exact h
  | case2 value label children hmalformed =>
    rw [evaluate.eq_2 _ _ _ _ _ hmalformed] at h
    cases h
    exact .inl rfl
  | case3 value label children =>
    rw [evaluate.eq_3, (evaluateCommand_quiet c hl hr engine value label children).1] at h
    split at h
    · cases h
      exact .inl rfl
    · exact .inr ⟨_, _, h⟩
  | case4 e h1 h2 h3 =>
    rw [evaluate.eq_4 _ _ _ h1 h2 h3] at h
    exact .inl (simpleFigure_plain (error_of_map h))

theorem record_plain {label : String} {figures : List Figure} {options : Options}
    {c : Construction} {fault : Fault}
    (h : (record label figures options c).answer = .error fault) : fault.ownWords? = none := by
  rcases record_refused h with rfl | rfl <;> rfl

theorem bindLabels_plain {e : Expr} (he : Syntax.Shaped e) {figures : List Figure}
    {options : Options} {c : Construction} {fault : Fault}
    (h : (bindLabels e figures options c).answer = .error fault) : fault.ownWords? = none := by
  induction he with
  | unlabelled hu =>
    rw [bindLabels_unlabelled hu] at h
    cases h
  | @labelled name e hn he ih =>
    rw [bindLabels_label, Action.answer_bind] at h
    rcases error_of_bind h with hinner | ⟨u, -, hrecord⟩
    · exact ih hinner
    · exact record_plain hrecord

end GeoScript
