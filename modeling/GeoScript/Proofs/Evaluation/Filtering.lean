import Mathlib.Data.List.Perm.Basic
import GeoScript.Proofs.Evaluation.Call
import GeoScript.Proofs.Traversal

/-! # Filters in another order, and more of them

A call gets as far as a processor if it passes every filter; which filters there are matters to
this, but not in which order. So a filter more, wherever it is attached, can only stop a call on its
way, and what gets through with it gets through without it and comes to the same. Filters on
commands have a single fault between them, so that their order does not even show in the faults.

* `Engine.IgnoresSliders`: results that do not depend on whether sliders are made.
* `Engine.Reaches`: what a call has passed when it gets to a processor.
* `Engine.LooserThan`: an engine with filters that another has as well. `call_eq_of_ok`: what the
  stricter engine answers the looser one answers in the same way.
* `Engine.Reordered`: the same filters in another order. `Reordered.ok_iff`: the same results.
* `call_eq_of_perm`: filters on commands in another order. -/

namespace GeoScript

/-! ### Processors that do not look at sliders -/

/-- A processor whose results do not depend on whether sliders are made. -/
def Processor.IgnoresSliders (p : Processor) : Prop :=
  ∀ c arguments options sliders,
    (p c arguments (options.withSliders sliders)).answer = (p c arguments options).answer

namespace Engine

/-- An engine whose processors are all of this kind. -/
def IgnoresSliders (e : Engine) : Prop :=
  ∀ name p, e.processors.get? name = some p → p.IgnoresSliders

theorem ignoresSliders_initial : initial.IgnoresSliders := by
  intro name p h
  rw [eq_basicProcessor_of_initial h]
  exact fun _ _ _ _ => rfl

theorem IgnoresSliders.answer_call {e : Engine} (h : e.IgnoresSliders) (name : String)
    (arguments : List Value) (options : Options) (sliders : Bool) :
    (e.call name arguments (options.withSliders sliders)).answer =
      (e.call name arguments options).answer :=
  answer_call_congr fun p hp c => h name p hp c arguments options sliders

theorem IgnoresSliders.register {e : Engine} (h : e.IgnoresSliders) (name : String) {p : Processor}
    (hp : p.IgnoresSliders) : (e.register name p).IgnoresSliders :=
  forall_register h name hp

/-! ### Getting to a processor -/

section Reaches

variable {e e' : Engine} {name : String} {arguments : List Value} {c : Command} {p : Processor}
  {options : Options} {figures : List Figure}

/-- A call gets as far as the processor `p`, which is asked for the command `c`. -/
structure Reaches (e : Engine) (name : String) (arguments : List Value) (c : Command)
    (p : Processor) : Prop where
  found : Command.find? name = some c
  allowed : ∀ f ∈ e.commandFilters.filters, f.allows c = true
  installed : e.processors.get? name = some p
  checked : ∀ f ∈ e.argumentFilters.filters, f.check name arguments = .ok ()

theorem Reaches.call_eq (h : e.Reaches name arguments c p) (options : Options) :
    e.call name arguments options = .after
      (.note .trace "dispatching" [("command", name), ("argc", arguments.length.repr)])
      (p c arguments options) := by
  have hallows : e.allows c = true := List.all_eq_true.mpr h.allowed
  have hcheck : e.checkArguments name arguments = .ok () :=
    ArgumentFilter.checkAll_eq_ok_iff.mpr h.checked
  unfold call
  simp only [h.found, hallows, h.installed, hcheck, ↓reduceIte]

theorem reaches_of_ok (h : (e.call name arguments options).answer = .ok figures) :
    ∃ c p, e.Reaches name arguments c p := by
  obtain ⟨c, hfound, hallowed, hchecked⟩ := call_ok h
  cases hp : e.processors.get? name with
  | some p => exact ⟨c, p, hfound, hallowed, hp, hchecked⟩
  | none =>
    have hallows : e.allows c = true := List.all_eq_true.mpr hallowed
    unfold call at h
    simp only [hfound, hallows, hp, ↓reduceIte] at h
    cases h

/-! ### More filters -/

/-- Every filter of `e` is attached to `e'` as well, among any others, and the processors are the
same. -/
structure LooserThan (e e' : Engine) : Prop where
  processors_eq : e.processors = e'.processors
  commands : ∀ f ∈ e.commandFilters.filters, f ∈ e'.commandFilters.filters
  arguments : ∀ f ∈ e.argumentFilters.filters, f ∈ e'.argumentFilters.filters

theorem LooserThan.reaches (h : e.LooserThan e') (hreaches : e'.Reaches name arguments c p) :
    e.Reaches name arguments c p where
  found := hreaches.found
  allowed := fun f hf => hreaches.allowed f (h.commands f hf)
  installed := h.processors_eq ▸ hreaches.installed
  checked := fun f hf => hreaches.checked f (h.arguments f hf)

/-- **What succeeds under more filters comes to the same under fewer,** events included. -/
theorem LooserThan.call_eq_of_ok (h : e.LooserThan e')
    (hok : (e'.call name arguments options).answer = .ok figures) :
    e.call name arguments options = e'.call name arguments options := by
  obtain ⟨c, p, hreaches⟩ := reaches_of_ok hok
  rw [hreaches.call_eq, (h.reaches hreaches).call_eq]

/-- **A further filter makes no call succeed.** -/
theorem LooserThan.error_of_error (h : e.LooserThan e') {fault : Fault}
    (herror : (e.call name arguments options).answer = .error fault) :
    ∃ fault', (e'.call name arguments options).answer = .error fault' := by
  cases hanswer : (e'.call name arguments options).answer with
  | error fault' => exact ⟨fault', rfl⟩
  | ok figures =>
    rw [h.call_eq_of_ok hanswer, hanswer] at herror
    cases herror

/-! ### Filters in another order -/

/-- Both engines have the same filters, in whatever order, and the same processors. -/
structure Reordered (e e' : Engine) : Prop where
  processors_eq : e.processors = e'.processors
  commands : e.commandFilters.filters.Perm e'.commandFilters.filters
  arguments : e.argumentFilters.filters.Perm e'.argumentFilters.filters

theorem Reordered.symm (h : e.Reordered e') : e'.Reordered e :=
  ⟨h.processors_eq.symm, h.commands.symm, h.arguments.symm⟩

theorem Reordered.looserThan (h : e.Reordered e') : e.LooserThan e' :=
  ⟨h.processors_eq, fun _ => h.commands.mem_iff.mp, fun _ => h.arguments.mem_iff.mp⟩

/-- **The order of the filters matters neither to whether a call succeeds nor to its result.** -/
theorem Reordered.ok_iff (h : e.Reordered e') :
    (e.call name arguments options).answer = .ok figures ↔
      (e'.call name arguments options).answer = .ok figures := by
  constructor
  · intro hok
    rwa [h.symm.looserThan.call_eq_of_ok hok]
  · intro hok
    rwa [h.looserThan.call_eq_of_ok hok]

/-- Nor does it matter whether sliders are made, if no processor looks at them. -/
theorem Reordered.toOption_call (h : e.Reordered e') (hs : e.IgnoresSliders) (name : String)
    (arguments : List Value) (options : Options) (sliders : Bool) :
    (e.call name arguments options).answer.toOption =
      (e'.call name arguments (options.withSliders sliders)).answer.toOption := by
  rw [← hs.answer_call name arguments options sliders]
  exact toOption_congr fun _ => h.ok_iff

/-- **The order of the filters on commands does not matter at all.** -/
theorem call_eq_of_perm (hprocessors : e.processors = e'.processors)
    (hcommands : e.commandFilters.filters.Perm e'.commandFilters.filters)
    (harguments : e.argumentFilters.filters = e'.argumentFilters.filters) : e.call = e'.call := by
  have hallows : e.allows = e'.allows := funext fun c => hcommands.all_eq
  have hcheck : e.checkArguments = e'.checkArguments := by
    unfold checkArguments
    rw [harguments]
  exact call_congr hprocessors hallows hcheck

end Reaches

end Engine

end GeoScript
