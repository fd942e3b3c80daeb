import GeoScript.Evaluation.Engine

/-! # What a call passes

A call is answered by a processor only if every filter on commands and every filter on arguments has
let it pass. The filters on commands come first: what one of them refuses is refused whatever the
arguments are, and whether or not there is a processor.

* `checkAll_eq_error_iff`: whose fault the filters on arguments find.
* `forall_register`: what is true of all processors.
* `call_congr`: what a call looks at.
* `call_ok`: what an answered call has passed.
* `call_error_of_find`, `call_error`: who ends a call by a fault.
* `answer_call_congr`: who looks at the options.
* `call_refused`: the fault of a command that is not allowed. -/

namespace GeoScript

theorem ArgumentFilter.checkAll_eq_ok_iff {fs : List ArgumentFilter} {command : String}
    {vs : List Value} :
    checkAll fs command vs = .ok () ↔ ∀ f ∈ fs, f.check command vs = .ok () := by
  induction fs with
  | nil => simp [checkAll]
  | cons f fs ih =>
    rw [checkAll, List.forall_mem_cons, ← ih]
    cases hf : f.check command vs with
    | error fault => simp
    | ok u => simp

theorem ArgumentFilter.checkAll_eq_error_iff {fs : List ArgumentFilter} {command : String}
    {vs : List Value} {fault : Fault} :
    checkAll fs command vs = .error fault ↔
      ∃ before f after, fs = before ++ f :: after ∧
        (∀ g ∈ before, g.check command vs = .ok ()) ∧ f.check command vs = .error fault := by
  constructor
  · intro h
    induction fs with
    | nil => cases h
    | cons f fs ih =>
      rw [checkAll] at h
      cases hf : f.check command vs with
      | error fault' =>
        rw [hf] at h
        cases h
        exact ⟨[], f, fs, rfl, List.forall_mem_nil _, hf⟩
      | ok u =>
        rw [hf] at h
        obtain ⟨before, g, after, rfl, hbefore, hg⟩ := ih h
        exact ⟨f :: before, g, after, rfl, List.forall_mem_cons.mpr ⟨hf, hbefore⟩, hg⟩
  · rintro ⟨before, f, after, rfl, hbefore, hf⟩
    rw [checkAll_append, checkAll_eq_ok_iff.mpr hbefore, checkAll, hf]

theorem ArgumentFilter.exists_of_checkAll_error {fs : List ArgumentFilter} {command : String}
    {vs : List Value} {fault : Fault} (h : checkAll fs command vs = .error fault) :
    ∃ f ∈ fs, f.check command vs = .error fault := by
  obtain ⟨before, f, after, rfl, -, hf⟩ := checkAll_eq_error_iff.mp h
  exact ⟨f, List.mem_append_right _ List.mem_cons_self, hf⟩

namespace Engine

theorem eq_basicProcessor_of_initial {name : String} {p : Processor}
    (h : initial.processors.get? name = some p) : p = basicProcessor := by
  suffices hbasic : ∀ cs : List Command,
      (cs.map fun c => (c.name, basicProcessor)).lookup name = some p → p = basicProcessor from
    hbasic _ h
  intro cs hcs
  induction cs with
  | nil => cases hcs
  | cons c cs ih =>
    rw [List.map_cons, List.lookup_cons] at hcs
    split at hcs
    · cases hcs
      rfl
    · exact ih hcs

theorem forall_register {P : Processor → Prop} {e : Engine}
    (h : ∀ name p, e.processors.get? name = some p → P p) (name : String) {p : Processor}
    (hp : P p) : ∀ other q, (e.register name p).processors.get? other = some q → P q := by
  intro other q hq
  have hget : (e.processors.insert name p).get? other = some q := hq
  rw [Table.get?_insert] at hget
  split at hget
  · cases hget
    exact hp
  · exact h other q hget

/-- A call looks at the verdicts of the filters and at the processors only. -/
theorem call_congr {e e' : Engine} (hprocessors : e.processors = e'.processors)
    (hallows : e.allows = e'.allows) (hcheck : e.checkArguments = e'.checkArguments) :
    e.call = e'.call := by
  unfold call
  rw [hallows, hcheck, hprocessors]

variable {e : Engine} {name : String} {arguments : List Value} {options : Options}

/-- **What an answered call has passed.** -/
theorem call_ok {figures : List Figure} (h : (e.call name arguments options).answer = .ok figures) :
    ∃ c, Command.find? name = some c ∧
      (∀ f ∈ e.commandFilters.filters, f.allows c = true) ∧
      ∀ f ∈ e.argumentFilters.filters, f.check name arguments = .ok () := by
  unfold call at h
  cases hfind : Command.find? name with
  | none => rw [hfind] at h; cases h
  | some c =>
    rw [hfind] at h
    refine ⟨c, rfl, ?_⟩
    cases hallows : e.allows c with
    | false => simp only [hallows] at h; cases h
    | true =>
      simp only [hallows] at h
      have hcommands : ∀ f ∈ e.commandFilters.filters, f.allows c = true := by
        simpa [allows] using hallows
      refine ⟨hcommands, ?_⟩
      cases hprocessor : e.processors.get? name with
      | none => rw [hprocessor] at h; cases h
      | some processor =>
        cases hcheck : e.checkArguments name arguments with
        | error fault => simp only [hprocessor, hcheck] at h; cases h
        | ok u => exact ArgumentFilter.checkAll_eq_ok_iff.mp hcheck

/-- **What a call of a command in the catalogue ends by:** the verdict of the filters on commands,
the lack of a processor, a fault of a filter on arguments, or one of the processor. -/
theorem call_error_of_find {c : Command} (hfind : Command.find? name = some c) {fault : Fault}
    (h : (e.call name arguments options).answer = .error fault) :
    (e.allows c = false ∧ fault = .commandNotAllowed name) ∨
      (e.processors.get? name = none ∧ fault = .unknownCommand name) ∨
      (∃ f ∈ e.argumentFilters.filters, f.check name arguments = .error fault) ∨
      ∃ processor, e.processors.get? name = some processor ∧
        (processor c arguments options).answer = .error fault := by
  unfold call at h
  rw [hfind] at h
  rcases hallows : e.allows c with _ | _
  · simp only [hallows] at h
    cases h
    exact .inl ⟨rfl, rfl⟩
  · simp only [hallows] at h
    rcases hprocessor : e.processors.get? name with _ | processor
    · rw [hprocessor] at h
      cases h
      exact .inr (.inl ⟨rfl, rfl⟩)
    · simp only [hprocessor] at h
      rcases hcheck : e.checkArguments name arguments with fault' | u
      · rw [hcheck] at h
        cases h
        exact .inr (.inr (.inl (ArgumentFilter.exists_of_checkAll_error hcheck)))
      · rw [hcheck] at h
        exact .inr (.inr (.inr ⟨processor, rfl, h⟩))

/-- **A fault of a call** is raised by a filter on arguments or by the processor, or it says that
the command is unknown or not allowed. -/
theorem call_error {fault : Fault} (h : (e.call name arguments options).answer = .error fault) :
    fault = .unknownCommand name ∨ fault = .commandNotAllowed name ∨
      (∃ f ∈ e.argumentFilters.filters, f.check name arguments = .error fault) ∨
      ∃ c processor, e.processors.get? name = some processor ∧
        (processor c arguments options).answer = .error fault := by
  rcases hfind : Command.find? name with _ | c
  · unfold call at h
    rw [hfind] at h
    cases h
    exact .inl rfl
  · rcases call_error_of_find hfind h with ⟨-, rfl⟩ | ⟨-, rfl⟩ | hcheck | ⟨processor, hp, hfault⟩
    · exact .inr (.inl rfl)
    · exact .inl rfl
    · exact .inr (.inr (.inl hcheck))
    · exact .inr (.inr (.inr ⟨c, processor, hp, hfault⟩))

theorem answer_call_congr {options' : Options}
    (h : ∀ p, e.processors.get? name = some p → ∀ c,
      (p c arguments options).answer = (p c arguments options').answer) :
    (e.call name arguments options).answer = (e.call name arguments options').answer := by
  unfold call
  cases Command.find? name with
  | none => rfl
  | some c =>
    dsimp only
    split
    · cases hprocessor : e.processors.get? name with
      | none => rfl
      | some p =>
        dsimp only
        cases e.checkArguments name arguments with
        | error fault => rfl
        | ok u => exact h p hprocessor c
    · rfl

theorem call_refused {c : Command} (hfind : Command.find? name = some c) {f : CommandFilter}
    (hmem : f ∈ e.commandFilters.filters) (hf : f.allows c = false) :
    (e.call name arguments options).answer = .error (.commandNotAllowed name) := by
  have hallows : e.allows c = false := by
    simp only [allows, List.all_eq_false]
    exact ⟨f, hmem, by rw [hf]; decide⟩
  unfold call
  rw [hfind]
  simp only [hallows]
  rfl

end Engine

end GeoScript
