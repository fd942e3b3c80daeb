import GeoScript.Proofs.Session.Moves

/-! # Approved bindings

A filter on results that is attached to a fresh session, and stays attached, has approved everything
that is bound at any later time, as long as no label is bound by hand. Results get to the labels on
two ways, by the labels of a text and by a redefinition, and the filters do not see empty results;
but what is bound on either way was released and is not empty.

* `Session.Approved`: the invariant.
* `approved_addOutputFilter`, `Approved.after`: it holds to start with, and every move keeps it.
* `bindings_are_approved`: the main statement, for what a session lists of its labels. -/

namespace GeoScript

/-! ### What a construction lists -/

theorem Construction.mem_elements {c : Construction} {label : String} {figures : List Figure}
    (h : (label, figures) ∈ c.elements) : c.get? label = some figures := by
  simp only [elements, List.mem_filterMap, Option.map_eq_some_iff, Prod.mk.injEq] at h
  obtain ⟨l, -, found, hget, rfl, rfl⟩ := h
  exact hget

theorem Construction.WellFormed.map_fst_elements {c : Construction} (h : c.WellFormed) :
    c.elements.map Prod.fst = c.labels := by
  have hlabel : ∀ l ∈ c.labels,
      ((c.get? l).map fun figures => (l, figures)).map Prod.fst = some l := by
    intro l hl
    obtain ⟨figures, hget⟩ := (c.isFree_eq_false_iff l).mp ((h.mem_iff l).mp hl)
    rw [hget]
    rfl
  rw [elements, List.map_filterMap, List.filterMap_congr hlabel, List.filterMap_some]

namespace Session

open GeoScript.Filter (Handle)

/-! ### The invariant -/

/-- A label and figures as a filter on results wants them. -/
structure Approves (f : List Figure → Bool) (label : String) (figures : List Figure) : Prop where
  isIdentifier : Syntax.isIdentifier label.toList = true
  ne_nil : figures ≠ []
  accepted : f figures = true

/-- The filter of a handle is attached, and has approved everything that is bound. -/
structure Approved (f : List Figure → Bool) (handle : Handle) (s : Session) : Prop where
  attached : (handle, f) ∈ s.outputFilters.entries
  wellFormed : s.construction.WellFormed
  approves : ∀ label figures, s.construction.get? label = some figures → Approves f label figures

theorem approved_addOutputFilter (f : List Figure → Bool) :
    (initial.addOutputFilter f).Approved f initial.outputFilters.nextHandle :=
  ⟨List.mem_singleton_self _, Construction.wellFormed_empty, fun _ _ h => by cases h⟩

section Step

variable {s : Session} {f : List Figure → Bool} {handle : Handle}

/-- An attached filter accepts every result that is released, unless the result is empty. -/
theorem accepted_of_releases (hf : (handle, f) ∈ s.outputFilters.entries) {figures : List Figure}
    (hne : figures ≠ []) (h : s.releases figures = true) : f figures = true := by
  have hnonempty : figures.isEmpty = false := List.isEmpty_eq_false_iff.mpr hne
  rw [releases, hnonempty, Bool.false_or, List.all_eq_true] at h
  exact h f (List.mem_map.mpr ⟨_, hf, rfl⟩)

/-- **A change of the construction keeps it approved.** -/
theorem Approved.of_change (h : s.Approved f handle) {c : Construction} (hc : s.Change c) :
    c.WellFormed ∧ ∀ label figures, c.get? label = some figures → Approves f label figures := by
  cases hc with
  | same => exact ⟨h.wellFormed, h.approves⟩
  | suppress suppressed => exact ⟨⟨h.wellFormed.nodup, h.wellFormed.mem_iff⟩, h.approves⟩
  | remove label =>
    refine ⟨h.wellFormed.remove label, fun other figures hother => ?_⟩
    rw [Construction.get?_remove] at hother
    split at hother
    · cases hother
    · exact h.approves other figures hother
  | clear => exact ⟨Construction.WellFormed.clear, fun _ _ hnothing => by cases hnothing⟩
  | bind labels figures hlabels hne hreleased =>
    refine ⟨h.wellFormed.bindAll labels figures, fun other found hother => ?_⟩
    rw [Construction.get?_bindAll] at hother
    split at hother
    · next hmem =>
      cases hother
      have hidentifier : Syntax.isIdentifier other.toList = true := by
        rcases hlabels other hmem with hread | hbound
        · exact hread
        · -- A label that is redefined was bound before, hence approved.
          obtain ⟨before, hbefore⟩ := (Construction.isFree_eq_false_iff ..).mp hbound
          exact (h.approves other before hbefore).isIdentifier
      exact ⟨hidentifier, hne, accepted_of_releases h.attached hne hreleased⟩
    · exact h.approves other found hother

theorem Approved.after {m : Move} (hm : m.Spares handle) (h : s.Approved f handle) :
    (s.after m).Approved f handle := by
  obtain ⟨hwellFormed, happroves⟩ := h.of_change (change_after hm)
  exact ⟨mem_outputFilters_after hm h.attached, hwellFormed, happroves⟩

end Step

/-! ### The main statement -/

/-- **No binding is unapproved.** A filter on results is attached to a fresh session; then moves of
all kinds follow, but none that binds a label by hand or detaches the filter. Every label that the
session lists after them is an identifier, stands for some figures, and these the filter accepts; no
label is listed twice. -/
theorem bindings_are_approved (f : List Figure → Bool) {moves : List Move}
    (hmoves : ∀ m ∈ moves, m.Spares initial.outputFilters.nextHandle) :
    let elements := ((initial.addOutputFilter f).afterAll moves).construction.elements
    (∀ label figures, (label, figures) ∈ elements →
      Syntax.isIdentifier label.toList = true ∧ figures ≠ [] ∧ f figures = true) ∧
    (elements.map Prod.fst).Nodup := by
  intro elements
  have happroved : ((initial.addOutputFilter f).afterAll moves).Approved f
      initial.outputFilters.nextHandle :=
    afterAll_induction Approved.after hmoves (approved_addOutputFilter f)
  refine ⟨fun label figures hmem => ?_, ?_⟩
  · have hbinding := happroved.approves label figures (Construction.mem_elements hmem)
    exact ⟨hbinding.isIdentifier, hbinding.ne_nil, hbinding.accepted⟩
  · rw [happroved.wellFormed.map_fst_elements]
    exact happroved.wellFormed.nodup

/-- Two labels are bound, one of them is removed, and the other is redefined. -/
theorem bindings_are_approved_redefined :
    let f : List Figure → Bool := fun figures => decide (figures.length ≤ 1)
    let moves : List Move := [.runStrict "A = B = Sum(1, 2)" false, .remove "B",
      .redefine ⟨"algebra", ⟨"e1"⟩, 3⟩ "A" "7" true]
    let elements := ((initial.addOutputFilter f).afterAll moves).construction.elements
    (∀ m ∈ moves, m.Spares initial.outputFilters.nextHandle) ∧
      elements = [("A", [.number (.int 7)])] ∧
      f [.number (.int 7)] = true ∧ (elements.map Prod.fst).Nodup := by
  intro f moves elements
  have hmoves : ∀ m ∈ moves, m.Spares initial.outputFilters.nextHandle := by decide
  have helements : elements = [("A", [.number (.int 7)])] := by
    let start := initial.addOutputFilter f
    have hread : start.workspace.read "A = B = Sum(1, 2)" = .ok (Expr.assignment "A"
        ((Expr.command "Sum" [.number (.int 1), .number (.int 2)]).withLabel "B")) := by cbv
    have hanswer : (start.runStrict "A = B = Sum(1, 2)" false).answer =
        .ok [.number (.int 3)] := by
      refine (answer_evaluateText_of_read (Options.redefinition_run false) hread _).trans ?_
      cbv
    obtain ⟨e, hread', hcommitted⟩ := committed_runStrict start _ false hanswer
    cases hread.symm.trans hread'
    let removed := (start.runStrict "A = B = Sum(1, 2)" false).session.remove "B"
    have hremoved : removed = (start.withConstruction (start.construction.bindAll ["B", "A"]
        [.number (.int 3)])).remove "B" := congrArg (remove · "B") hcommitted.session_eq
    have hseven : removed.workspace.read "7" = .ok (.leaf .number (.number (.int 7))) := by
      rw [hremoved]
      cbv
    have hredefined : (removed.redefine ⟨"algebra", ⟨"e1"⟩, 3⟩ "A" "7" true).answer =
        .ok [.number (.int 7)] := by
      refine (answer_redefinition removed "A" "7" true removed.construction).trans ?_
      rw [answer_evaluateText_of_read redefinition_redefinitionOptions hseven, hremoved]
      cbv
    change (removed.redefine ⟨"algebra", ⟨"e1"⟩, 3⟩ "A" "7" true).session.construction.elements = _
    rw [session_redefine_of_ok hredefined, hremoved]
    rfl
  obtain ⟨happroved, hnodup⟩ := bindings_are_approved f hmoves
  have hmem : ("A", [.number (.int 7)]) ∈ elements := by
    rw [helements]
    exact List.mem_singleton_self _
  exact ⟨hmoves, helements, (happroved "A" _ hmem).2.2, hnodup⟩

end Session

end GeoScript
