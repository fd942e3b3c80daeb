import GeoScript.Proofs.Evaluation.Call

/-! # The leaves of combined filters

Filters are combined into trees, with any filters of other kinds as the leaves. Such a tree says
what its leaves say one after the other, from left to right: a command is allowed if every leaf
allows it, and the fault that is found in some arguments is that of the first leaf that finds one.
This is also how a chain goes through its filters, so it does not show in a call whether a tree or
its leaves are attached.

* `CommandFilter.leaves`, `ArgumentFilter.leaves`: the leaves of a tree.
* `allows_eq_all_leaves`, `check_eq_checkAll_leaves`: a tree says what its leaves say.
* `Filter.Unfolded`: filters of which one is replaced by its leaves.
* `combined_filters_flatten`: the main statement. -/

namespace GeoScript

/-! ### Filters on commands -/

namespace CommandFilter

mutual

/-- The leaves of a tree of filters, from left to right; what is no combination is its only leaf. -/
def leaves : CommandFilter → List CommandFilter
  | .all filters => leavesAll filters
  | .only commands => [.only commands]
  | .gate category isOpen => [.gate category isOpen]
  | .test allows => [.test allows]

/-- The leaves of some trees, one after the other. -/
def leavesAll : List CommandFilter → List CommandFilter
  | [] => []
  | f :: fs => f.leaves ++ leavesAll fs

end

/-- A filter that is no combination. -/
def IsLeaf : CommandFilter → Prop
  | .all _ => False
  | .only _ | .gate .. | .test _ => True

mutual

theorem isLeaf_of_mem_leaves : ∀ f : CommandFilter, ∀ g ∈ f.leaves, g.IsLeaf
  | .all filters => isLeaf_of_mem_leavesAll filters
  | .only _ | .gate .. | .test _ => List.forall_mem_singleton.mpr trivial

theorem isLeaf_of_mem_leavesAll : ∀ fs : List CommandFilter, ∀ g ∈ leavesAll fs, g.IsLeaf
  | [] => List.forall_mem_nil _
  | f :: fs =>
    List.forall_mem_append.mpr ⟨isLeaf_of_mem_leaves f, isLeaf_of_mem_leavesAll fs⟩

end

mutual

/-- **A tree allows what all its leaves allow.** -/
theorem allows_eq_all_leaves (c : Command) :
    ∀ f : CommandFilter, f.allows c = f.leaves.all fun g => g.allows c
  | .all filters => by rw [allows, leaves, allAllow_eq_all_leaves c filters]
  | .only _ | .gate .. | .test _ => by rw [leaves, List.all_cons, List.all_nil, Bool.and_true]

theorem allAllow_eq_all_leaves (c : Command) :
    ∀ fs : List CommandFilter, allAllow fs c = (leavesAll fs).all fun g => g.allows c
  | [] => rfl
  | f :: fs => by
    rw [allAllow, leavesAll, List.all_append, allows_eq_all_leaves c f,
      allAllow_eq_all_leaves c fs]

end

end CommandFilter

/-! ### Filters on arguments -/

namespace ArgumentFilter

mutual

/-- The leaves of a tree of filters, from left to right; what is no combination is its only leaf. -/
def leaves : ArgumentFilter → List ArgumentFilter
  | .all filters => leavesAll filters
  | .count least greatest => [.count least greatest]
  | .types expected => [.types expected]
  | .test check => [.test check]

/-- The leaves of some trees, one after the other. -/
def leavesAll : List ArgumentFilter → List ArgumentFilter
  | [] => []
  | f :: fs => f.leaves ++ leavesAll fs

end

/-- A filter that is no combination. -/
def IsLeaf : ArgumentFilter → Prop
  | .all _ => False
  | .count .. | .types _ | .test _ => True

mutual

theorem isLeaf_of_mem_leaves : ∀ f : ArgumentFilter, ∀ g ∈ f.leaves, g.IsLeaf
  | .all filters => isLeaf_of_mem_leavesAll filters
  | .count .. | .types _ | .test _ => List.forall_mem_singleton.mpr trivial

theorem isLeaf_of_mem_leavesAll : ∀ fs : List ArgumentFilter, ∀ g ∈ leavesAll fs, g.IsLeaf
  | [] => List.forall_mem_nil _
  | f :: fs =>
    List.forall_mem_append.mpr ⟨isLeaf_of_mem_leaves f, isLeaf_of_mem_leavesAll fs⟩

end

section Check

variable (name : String) (arguments : List Value)

theorem checkAll_singleton (f : ArgumentFilter) :
    checkAll [f] name arguments = f.check name arguments := by
  unfold checkAll
  cases f.check name arguments <;> rfl

mutual

/-- **A tree finds the fault that its leaves find,** one after the other. -/
theorem check_eq_checkAll_leaves :
    ∀ f : ArgumentFilter, f.check name arguments = checkAll f.leaves name arguments
  | .all filters => by rw [check, leaves, checkAll_eq_checkAll_leaves filters]
  | .count .. | .types _ | .test _ => by rw [leaves, checkAll_singleton]

theorem checkAll_eq_checkAll_leaves :
    ∀ fs : List ArgumentFilter, checkAll fs name arguments = checkAll (leavesAll fs) name arguments
  | [] => rfl
  | f :: fs => by
    rw [checkAll, leavesAll, checkAll_append, check_eq_checkAll_leaves f,
      checkAll_eq_checkAll_leaves fs]

end

end Check

end ArgumentFilter

/-! ### Chains with trees and with leaves -/

/-- Some filters with one of them replaced by its leaves, in its place. -/
def Filter.Unfolded {α : Type} (leaves : α → List α) (fs gs : List α) : Prop :=
  ∃ before f after, fs = before ++ f :: after ∧ gs = before ++ leaves f ++ after

namespace Engine

variable {e e' : Engine}

/-- It does not show in the verdict on commands whether a tree or its leaves are attached. -/
theorem allows_eq_of_unfolded
    (h : Filter.Unfolded CommandFilter.leaves e.commandFilters.filters e'.commandFilters.filters) :
    e.allows = e'.allows := by
  obtain ⟨before, f, after, hfilters, hfilters'⟩ := h
  funext c
  rw [allows, allows, hfilters, hfilters', List.all_append, List.all_cons, List.all_append,
    List.all_append, f.allows_eq_all_leaves, Bool.and_assoc]

theorem checkArguments_eq_of_unfolded
    (h : Filter.Unfolded ArgumentFilter.leaves e.argumentFilters.filters
      e'.argumentFilters.filters) : e.checkArguments = e'.checkArguments := by
  obtain ⟨before, f, after, hfilters, hfilters'⟩ := h
  funext name arguments
  have hplace : ArgumentFilter.checkAll (f :: after) name arguments =
      ArgumentFilter.checkAll (f.leaves ++ after) name arguments := by
    rw [ArgumentFilter.checkAll_append, ← f.check_eq_checkAll_leaves]
    rfl
  rw [checkArguments, checkArguments, hfilters, hfilters', List.append_assoc,
    ArgumentFilter.checkAll_append, ArgumentFilter.checkAll_append, hplace]

end Engine

/-! ### The main statement -/

/-- **Combined filters flatten.** A tree of filters on commands allows a command exactly if all its
leaves do. A tree of filters on arguments finds no fault exactly if none of its leaves does, and
otherwise the fault of the first leaf, from left to right, that finds one. So a tree in a chain can
be replaced by its leaves, in its place, and every call comes to the same, events included. -/
theorem combined_filters_flatten :
    (∀ f : CommandFilter, (∀ g ∈ f.leaves, g.IsLeaf) ∧
      ∀ c, f.allows c = f.leaves.all fun g => g.allows c) ∧
    (∀ f : ArgumentFilter, (∀ g ∈ f.leaves, g.IsLeaf) ∧ ∀ name arguments,
      (f.check name arguments = .ok () ↔ ∀ g ∈ f.leaves, g.check name arguments = .ok ()) ∧
      ∀ fault, f.check name arguments = .error fault ↔
        ∃ before g after, f.leaves = before ++ g :: after ∧
          (∀ h ∈ before, h.check name arguments = .ok ()) ∧
          g.check name arguments = .error fault) ∧
    (∀ e e' : Engine, e.processors = e'.processors →
      Filter.Unfolded CommandFilter.leaves e.commandFilters.filters e'.commandFilters.filters →
      e.argumentFilters.filters = e'.argumentFilters.filters → e.call = e'.call) ∧
    ∀ e e' : Engine, e.processors = e'.processors →
      e.commandFilters.filters = e'.commandFilters.filters →
      Filter.Unfolded ArgumentFilter.leaves e.argumentFilters.filters e'.argumentFilters.filters →
      e.call = e'.call := by
  refine ⟨fun f => ⟨f.isLeaf_of_mem_leaves, fun c => f.allows_eq_all_leaves c⟩,
    fun f => ⟨f.isLeaf_of_mem_leaves, fun name arguments => ?_⟩, ?_, ?_⟩
  · rw [f.check_eq_checkAll_leaves, ArgumentFilter.checkAll_eq_ok_iff]
    exact ⟨.rfl, fun fault => ArgumentFilter.checkAll_eq_error_iff⟩
  · intro e e' hprocessors hcommands harguments
    have hcheck : e.checkArguments = e'.checkArguments := by
      unfold Engine.checkArguments
      rw [harguments]
    exact Engine.call_congr hprocessors (Engine.allows_eq_of_unfolded hcommands) hcheck
  · intro e e' hprocessors hcommands harguments
    have hallows : e.allows = e'.allows := by
      unfold Engine.allows
      rw [hcommands]
    exact Engine.call_congr hprocessors hallows (Engine.checkArguments_eq_of_unfolded harguments)

/-- Trees with trees without leaves in them, each between two other filters in its chain: the first
leaf that finds a fault in one argument is the third one, and it is the leaf that is heard. -/
theorem combined_filters_flatten_nested :
    let exam : CommandFilter := .all [.all [], .only [.point, .gcd],
      .all [.cas false, .all [.all [], .gate .algebra false]]]
    let rules : ArgumentFilter := .all [.all [.all []], .count 1 none,
      .all [.types [.int], .count 2 none], .types [.text]]
    let e := ((Engine.initial.addCommandFilter (.gate .text false)).addCommandFilter
      exam).addCommandFilter (.gate .list false)
    let f := ((e.addArgumentFilter (.types [.number])).addArgumentFilter rules).addArgumentFilter
      (.types [.text])
    let e' := exam.leaves.foldl Engine.addCommandFilter
      (Engine.initial.addCommandFilter (.gate .text false))
    let f' := (rules.leaves.foldl Engine.addArgumentFilter
      (e.addArgumentFilter (.types [.number]))).addArgumentFilter (.types [.text])
    let arguments : List Value := [.number (.int 1)]
    exam.leaves = [.only [.point, .gcd], .cas false, .gate .algebra false] ∧
    exam.allows .point = true ∧ exam.allows .gcd = false ∧
    rules.check "Point" arguments = .error (.argumentCount "Point" 2 1) ∧
    e.call = (e'.addCommandFilter (.gate .list false)).call ∧ f.call = f'.call ∧
    (f'.call "Point" arguments .standard).answer = .error (.argumentCount "Point" 2 1) := by
  intro exam rules e f e' f' arguments
  obtain ⟨htree, hrules, hcommands, harguments⟩ := combined_filters_flatten
  have hfault : rules.check "Point" arguments = .error (.argumentCount "Point" 2 1) :=
    ((hrules rules).2 "Point" arguments).2 _ |>.mpr
      ⟨[.count 1 none, .types [.int]], .count 2 none, [.types [.text]], rfl,
        List.forall_mem_cons.mpr ⟨rfl, List.forall_mem_singleton.mpr rfl⟩, rfl⟩
  have hexam : e.call = (e'.addCommandFilter (.gate .list false)).call :=
    hcommands e _ rfl ⟨[.gate .text false], exam, [.gate .list false], rfl, rfl⟩ rfl
  have hrule : f.call = f'.call :=
    harguments f f' rfl rfl ⟨[.types [.number]], rules, [.types [.text]], rfl, rfl⟩
  refine ⟨rfl, ?_, ?_, hfault, hexam, hrule, rfl⟩
  · rw [(htree exam).2]
    rfl
  · rw [(htree exam).2]
    rfl

end GeoScript
