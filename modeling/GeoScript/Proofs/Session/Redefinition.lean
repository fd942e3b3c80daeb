import GeoScript.Proofs.Session.Moves

/-! # Redefinitions touch one label

To redefine a label is to evaluate a text without binding its labels, and then to bind the one label
that is redefined, which is bound already and keeps its place. Whether the label is bound, and
whether redefining is wanted, is settled before the text is looked at.

* `Construction.NoneBlank`, `noneBlank_initial`, `noneBlank_after`: no blank label is ever bound, so
  that a label that is bound can be bound again.
* `Construction.elements_bind`: what is listed after a label is bound again.
* `Session.Rebound`, `refusedRedefinition`: what a redefinition leaves, and how it is refused.
* `redefinition_touches_one_label`: the main statement. -/

namespace GeoScript

/-! ### No blank label is bound -/

namespace Construction

/-- No blank label is bound. -/
def NoneBlank (c : Construction) : Prop := ∀ l, c.isFree l = false → Text.isEmptyText l = false

theorem NoneBlank.remove {c : Construction} (h : c.NoneBlank) (label : String) :
    (c.remove label).NoneBlank := by
  intro l hl
  obtain ⟨figures, hget⟩ := (isFree_eq_false_iff ..).mp hl
  rw [get?_remove] at hget
  split at hget
  · cases hget
  · exact h l ((isFree_eq_false_iff ..).mpr ⟨figures, hget⟩)

theorem NoneBlank.bindAll {c : Construction} (h : c.NoneBlank) {labels : List String}
    (hlabels : ∀ l ∈ labels, Text.isEmptyText l = false) (figures : List Figure) :
    (c.bindAll labels figures).NoneBlank := by
  intro l hl
  obtain ⟨found, hget⟩ := (isFree_eq_false_iff ..).mp hl
  rw [get?_bindAll] at hget
  split at hget
  · next hmem => exact hlabels l hmem
  · exact h l ((isFree_eq_false_iff ..).mpr ⟨found, hget⟩)

theorem NoneBlank.of_bind? {c d : Construction} (h : c.NoneBlank) {label : String}
    {figures : List Figure} (hbind : c.bind? label figures = .ok d) : d.NoneBlank := by
  unfold bind? refusal? at hbind
  cases hblank : Text.isEmptyText label with
  | true =>
    rw [hblank] at hbind
    cases hbind
  | false =>
    rw [hblank] at hbind
    cases hempty : figures.isEmpty with
    | true =>
      rw [hempty] at hbind
      cases hbind
    | false =>
      rw [hempty] at hbind
      cases hbind
      have hlabels : ∀ l ∈ [label], Text.isEmptyText l = false :=
        List.forall_mem_singleton.mpr hblank
      exact h.bindAll hlabels figures

/-- **A label that is bound again keeps its place,** and everything else stays as it is listed. -/
theorem elements_bind {c : Construction} {label : String} (h : c.isFree label = false)
    (figures : List Figure) :
    (c.bind label figures).elements = c.elements.map
      fun binding => (binding.1, if binding.1 = label then figures else binding.2) := by
  have hlabels : (c.bind label figures).labels = c.labels := by simp [bind, h]
  rw [elements, elements, hlabels, List.map_filterMap]
  refine List.filterMap_congr fun l _ => ?_
  rw [get?_bind]
  by_cases hl : l = label
  · obtain ⟨old, hold⟩ := (isFree_eq_false_iff ..).mp h
    simp [hl, hold]
  · cases c.get? l <;> simp [hl]

end Construction

namespace Session

open GeoScript.Filter (Handle)

theorem noneBlank_initial : initial.construction.NoneBlank := fun l hl => by cases hl

theorem noneBlank_of_change {s : Session} (h : s.construction.NoneBlank) {c : Construction}
    (hc : s.Change c) : c.NoneBlank := by
  cases hc with
  | same => exact h
  | suppress suppressed => exact h
  | remove label => exact h.remove label
  | clear => exact fun l hl => by cases hl
  | bind labels figures hlabels hne hreleased =>
    exact h.bindAll (fun l hl => (hlabels l hl).elim Syntax.isEmptyText_of_isIdentifier (h l))
      figures

theorem exists_spares {m : Move} (hm : ∀ label figures, m ≠ .bind label figures) :
    ∃ handle, m.Spares handle := by
  cases m with
  | bind label figures => exact absurd rfl (hm label figures)
  | removeOutputFilter other =>
    refine ⟨⟨other.number + 1⟩, fun heq => ?_⟩
    exact Nat.ne_of_lt (Nat.lt_succ_self _) (congrArg Handle.number heq)
  | _ => exact ⟨⟨0⟩, trivial⟩

/-- **No move binds a blank label,** be it by hand. -/
theorem noneBlank_after {s : Session} (h : s.construction.NoneBlank) (m : Move) :
    (s.after m).construction.NoneBlank := by
  by_cases hm : ∀ label figures, m ≠ .bind label figures
  · obtain ⟨handle, hspares⟩ := exists_spares hm
    exact noneBlank_of_change h (change_after hspares)
  · simp only [not_forall, not_not] at hm
    obtain ⟨label, figures, rfl⟩ := hm
    rw [after, bind?]
    cases hbind : s.construction.bind? label figures with
    | error problem => exact h
    | ok c => exact h.of_bind? hbind

theorem noneBlank_afterAll {s : Session} (h : s.construction.NoneBlank) (moves : List Move) :
    (s.afterAll moves).construction.NoneBlank := by
  have hmoves : ∀ m ∈ moves, (fun _ => True) m := fun _ _ => trivial
  exact afterAll_induction (P := fun s => s.construction.NoneBlank)
    (fun _ h => noneBlank_after h _) hmoves h

/-! ### Replies to redefinitions -/

/-- The reply to a redefinition that is refused at once: between its start and its end nothing
happens. -/
def refusedRedefinition (s : Session) (stamp : Stamp) (label text : String) (fault : Fault) :
    Reply (Except Fault (List Figure)) :=
  bracket "redefine_element" stamp [("label", label), ("input", text)] ⟨.error fault, s, []⟩

/-- The session `after` is `s` with a label that was bound before bound to some figures: it keeps
its place, and all other labels keep their places and their figures. -/
structure Rebound (s : Session) (label : String) (figures : List Figure) (after : Session) :
    Prop where
  session_eq : after = s.withConstruction (s.construction.bind label figures)
  labels_eq : after.construction.labels = s.construction.labels
  get?_eq : ∀ l, after.construction.get? l =
    if l = label then some figures else s.construction.get? l
  elements_eq : after.construction.elements = s.construction.elements.map
    fun binding => (binding.1, if binding.1 = label then figures else binding.2)

theorem rebound_bind {s : Session} {label : String} (h : s.construction.isFree label = false)
    (figures : List Figure) :
    s.Rebound label figures (s.withConstruction (s.construction.bind label figures)) where
  session_eq := rfl
  labels_eq := by
    change (s.construction.bind label figures).labels = _
    simp [Construction.bind, h]
  get?_eq := fun l => Construction.get?_bind ..
  elements_eq := Construction.elements_bind h figures

/-- A label that is not blank can be bound, unless there are no figures to bind it to. -/
theorem answer_record_redefinition {c : Construction} {label : String}
    (hl : Text.isEmptyText label = false) (figures : List Figure) :
    ((record label figures (redefinitionOptions.withLabels true) c).answer.map fun _ => figures) =
      if figures.isEmpty && !c.suppressed then .error (.invalidInput (.emptyResult label))
      else .ok figures := by
  cases hs : c.suppressed with
  | true =>
    rw [(record_quiet (by rw [hs]; rfl)).1, Bool.not_true, Bool.and_false]
    rfl
  | false =>
    have hwanted : ((redefinitionOptions.withLabels true).labels && !c.suppressed) = true := by
      rw [hs]
      rfl
    cases figures with
    | nil =>
      rw [(record_nothing hwanted hl).1]
      rfl
    | cons f fs =>
      rw [(record_figures hwanted hl (List.cons_ne_nil f fs)).1]
      rfl

/-! ### The main statement -/

/-- **A redefinition touches one label.** If the label is not bound, or redefining is not wanted,
that is the fault, in this order, and nothing comes of the text. Otherwise the text is evaluated
with sliders and without binding its labels, and its answer is the answer, except that there have to
be figures unless bindings are suppressed. Only an answer binds, and only while bindings are not
suppressed: the one label, which keeps its place. In all other cases the session is as it was. That
no blank label is bound is so from the start and after any moves (`noneBlank_afterAll`). -/
theorem redefinition_touches_one_label {s : Session} (hs : s.construction.NoneBlank)
    (stamp : Stamp) (label text : String) (wanted : Bool) :
    let reply := s.redefine stamp label text wanted
    let evaluated := (s.evaluateText text redefinitionOptions s.construction).answer
    let suppressed := s.construction.suppressed
    (s.construction.isFree label = true →
      reply = s.refusedRedefinition stamp label text (.undefinedVariable label)) ∧
    (s.construction.isFree label = false → wanted = false →
      reply = s.refusedRedefinition stamp label text (.nameUsed label)) ∧
    (s.construction.isFree label = false → wanted = true →
      reply.answer = evaluated.bind fun figures =>
        if figures.isEmpty && !suppressed then .error (.invalidInput (.emptyResult label))
        else .ok figures) ∧
    (∀ figures, reply.answer = .ok figures → suppressed = false →
      s.Rebound label figures reply.session) ∧
    ((∀ figures, reply.answer = .ok figures → suppressed = true) → reply.session = s) := by
  intro reply evaluated suppressed
  have hreply : reply = bracket "redefine_element" stamp [("label", label), ("input", text)]
      (s.perform (s.redefinition label text wanted)) := rfl
  refine ⟨fun hfree => ?_, fun hbound hwanted => ?_, fun hbound hwanted => ?_,
    fun figures hanswer hsuppressed => ?_, fun hother => ?_⟩
  · rw [hreply, redefinition, if_pos hfree]
    rfl
  · subst hwanted
    rw [hreply, redefinition, hbound]
    rfl
  · subst hwanted
    have hanswer := answer_redefinition s label text true s.construction
    simp only [hbound, answer_record_redefinition (hs label hbound)] at hanswer
    exact hanswer
  · have hsession : reply.session = _ := session_redefine_of_ok hanswer
    have hrunning : s.construction.suppressed = false := hsuppressed
    rw [hsession, hrunning]
    exact rebound_bind (isFree_of_redefinition_ok hanswer) figures
  · cases hanswer : reply.answer with
    | error fault => exact session_redefine_of_error hanswer
    | ok figures =>
      have hsession : reply.session = _ := session_redefine_of_ok hanswer
      have hsuppressed : s.construction.suppressed = true := hother figures hanswer
      rw [hsession, hsuppressed]
      rfl

/-- The first of two labels is redefined by a text that has both labels itself. -/
theorem redefinition_touches_one_label_chain :
    let moves : List Move := [.bind "A" [.text "a"], .bind "B" [.text "b"]]
    let s := initial.afterAll moves
    let reply := s.redefine ⟨"algebra", ⟨"e1"⟩, 3⟩ "A" "B = A = 7" true
    s.construction.NoneBlank ∧ reply.answer = .ok [.number (.int 7)] ∧
      reply.session.construction.elements = [("A", [.number (.int 7)]), ("B", [.text "b"])] := by
  intro moves s reply
  have hs : s.construction.NoneBlank := noneBlank_afterAll noneBlank_initial moves
  have hread : s.workspace.read "B = A = 7" = .ok (.assignment "B" (.assignment "A"
      (.leaf .number (.number (.int 7))))) := by cbv
  have hevaluated : (s.evaluateText "B = A = 7" redefinitionOptions
      s.construction).answer = .ok [.number (.int 7)] := by
    rw [answer_evaluateText_of_read redefinition_redefinitionOptions hread]
    rfl
  obtain ⟨-, -, hanswer, hrebound, -⟩ := redefinition_touches_one_label hs
    ⟨"algebra", ⟨"e1"⟩, 3⟩ "A" "B = A = 7" true
  have hreply : reply.answer = .ok [.number (.int 7)] := by
    refine (hanswer (by decide) rfl).trans ?_
    rw [hevaluated]
    rfl
  exact ⟨hs, hreply, (hrebound _ hreply rfl).elements_eq⟩

end Session

end GeoScript
