import GeoScript.Proofs.Reading.Shape
import GeoScript.Workspace

/-! # Binding the labels of an expression

Labels are bound one after the other, the innermost first, and each binding may be refused. For an
expression that was read the first binding decides about all of them: its labels are not blank, so
only an empty result is refused, and it is refused at once.

* `Construction.bindAll`: some labels bound to the same figures; `get?_bindAll` and `labels_bindAll`
  say what is bound then, and in which order.
* `Expr.labelChain`: the labels of an expression, the innermost first.
* `record_refused`: what a binding is refused for.
* `bindLabels_quiet`, `bindLabels_figures`, `bindLabels_nothing`: binding the labels of an
  expression without effect, with figures and without any. -/

namespace GeoScript

/-! ### Several labels in a construction -/

namespace Construction

/-- Binds some labels, one after the other, to the same figures. -/
def bindAll (c : Construction) (labels : List String) (figures : List Figure) : Construction :=
  labels.foldl (fun c l => c.bind l figures) c

variable (c : Construction) (figures : List Figure)

theorem bindAll_append (ls ms : List String) :
    c.bindAll (ls ++ ms) figures = (c.bindAll ls figures).bindAll ms figures :=
  List.foldl_append

theorem suppressed_bindAll (ls : List String) :
    (c.bindAll ls figures).suppressed = c.suppressed := by
  induction ls generalizing c with
  | nil => rfl
  | cons l ls ih => exact ih (c.bind l figures)

theorem WellFormed.bindAll {c : Construction} (h : c.WellFormed) (ls : List String)
    (figures : List Figure) : (c.bindAll ls figures).WellFormed := by
  induction ls generalizing c with
  | nil => exact h
  | cons l ls ih => exact ih (h.bind l figures)

/-- **What is bound after several bindings:** the labels to the figures, all others as before. -/
theorem get?_bindAll (ls : List String) (other : String) :
    (c.bindAll ls figures).get? other = if other ∈ ls then some figures else c.get? other := by
  induction ls generalizing c with
  | nil => rfl
  | cons l ls ih =>
    have hstep := ih (c.bind l figures)
    rw [get?_bind] at hstep
    refine hstep.trans ?_
    by_cases hmem : other ∈ ls <;> by_cases hl : other = l <;> simp [hmem, hl]

theorem isFree_bind (label other : String) :
    (c.bind label figures).isFree other = (c.isFree other && other != label) := by
  simp only [isFree, bind, Table.contains_insert, Bool.not_or, bne]
  exact Bool.and_comm _ _

/-- **Their order after several bindings:** bound labels keep their places, and the others follow in
the order in which they were bound first. -/
theorem labels_bindAll (ls : List String) :
    (c.bindAll ls figures).labels = c.labels ++ (ls.filter c.isFree).eraseDups := by
  induction ls generalizing c with
  | nil => simp [bindAll]
  | cons l ls ih =>
    have hstep : (c.bindAll (l :: ls) figures).labels =
        (c.bind l figures).labels ++ (ls.filter (c.bind l figures).isFree).eraseDups :=
      ih (c.bind l figures)
    have hfilter : ls.filter (c.bind l figures).isFree = (ls.filter c.isFree).filter (· != l) := by
      rw [List.filter_filter]
      exact List.filter_congr fun x _ => by rw [isFree_bind, Bool.and_comm]
    rw [hstep, hfilter]
    by_cases hl : c.isFree l = true
    · have hlabels : (c.bind l figures).labels = c.labels ++ [l] := by simp [bind, hl]
      rw [hlabels, List.filter_cons_of_pos hl, List.eraseDups_cons, List.append_assoc]
      rfl
    · have hlabels : (c.bind l figures).labels = c.labels := by simp [bind, hl]
      have hkeep : (ls.filter c.isFree).filter (· != l) = ls.filter c.isFree := by
        rw [List.filter_eq_self]
        rintro x hx
        have hfree := (List.mem_filter.mp hx).2
        rw [bne_iff_ne]
        rintro rfl
        exact hl hfree
      rw [hlabels, hkeep, List.filter_cons_of_neg hl]

end Construction

/-! ### The labels of an expression -/

/-- The labels of an expression, the innermost first. -/
def Expr.labelChain : Expr → List String
  | { kind := .assignment, value := some (.expr rhs), label, children := _ } =>
    rhs.labelChain ++ label.toList
  | { kind := _, value := _, label, children := _ } => label.toList

theorem Syntax.labelChain_label (name : String) (e : Expr) :
    (label name e).labelChain = e.labelChain ++ [name] := by
  obtain ⟨kind, value, l, children⟩ := e
  unfold label
  split
  · next h =>
    obtain ⟨rfl, rfl⟩ := h
    rfl
  · rfl

theorem Syntax.Unlabelled.labelChain_eq {e : Expr} (h : Unlabelled e) : e.labelChain = [] := by
  cases h with
  | call name arguments => rfl
  | @leaf kind v hc ha =>
    cases kind with
    | assignment => exact absurd rfl ha
    | _ => rfl

theorem Syntax.isIdentifier_of_mem_labelChain {e : Expr} (he : Shaped e) {l : String}
    (hl : l ∈ e.labelChain) : isIdentifier l.toList = true := by
  induction he with
  | unlabelled hu =>
    rw [hu.labelChain_eq] at hl
    cases hl
  | @labelled name e hn he ih =>
    rw [labelChain_label, List.mem_append, List.mem_singleton] at hl
    rcases hl with hl | rfl
    · exact ih hl
    · exact hn

/-! ### One label -/

section Record

variable {label : String} {figures : List Figure} {options : Options} {c : Construction}

theorem record_quiet (h : (options.labels && !c.suppressed) = false) :
    (record label figures options c).answer = .ok () ∧
      (record label figures options c).state = c := by
  unfold record
  rw [if_neg (by rw [h]; decide)]
  exact ⟨rfl, rfl⟩

theorem record_figures (h : (options.labels && !c.suppressed) = true)
    (hl : Text.isEmptyText label = false) (hf : figures ≠ []) :
    (record label figures options c).answer = .ok () ∧
      (record label figures options c).state = c.bind label figures := by
  have hbind : c.bind? label figures = .ok (c.bind label figures) := by
    have hne : figures.isEmpty = false := by simpa using hf
    simp [Construction.bind?, Construction.refusal?, hl, hne]
  unfold record
  rw [if_pos h, hbind]
  exact ⟨rfl, rfl⟩

theorem record_nothing (h : (options.labels && !c.suppressed) = true)
    (hl : Text.isEmptyText label = false) :
    (record label [] options c).answer = .error (.invalidInput (.emptyResult label)) ∧
      (record label [] options c).state = c := by
  have hbind : c.bind? label [] = .error (.emptyResult label) := by
    simp [Construction.bind?, Construction.refusal?, hl]
  unfold record
  rw [if_pos h, hbind]
  exact ⟨rfl, rfl⟩

theorem record_refused {fault : Fault}
    (h : (record label figures options c).answer = .error fault) :
    fault = .invalidInput .emptyLabel ∨ fault = .invalidInput (.emptyResult label) := by
  unfold record Construction.bind? Construction.refusal? at h
  split at h
  · cases hblank : Text.isEmptyText label with
    | true =>
      rw [hblank] at h
      cases h
      exact .inl rfl
    | false =>
      cases figures with
      | nil =>
        rw [hblank] at h
        cases h
        exact .inr rfl
      | cons f fs =>
        rw [hblank] at h
        cases h
  · cases h

theorem state_record_of_error {fault : Fault}
    (h : (record label figures options c).answer = .error fault) :
    (record label figures options c).state = c := by
  unfold record at h ⊢
  split at h
  · next hb =>
    rw [if_pos hb]
    split <;> rename_i hbind
    · rfl
    · rw [hbind] at h; cases h
  · cases h

theorem ne_nil_of_record_ok (hb : (options.labels && !c.suppressed) = true)
    (h : (record label figures options c).answer = .ok ()) : figures ≠ [] := by
  rintro rfl
  unfold record Construction.bind? Construction.refusal? at h
  rw [if_pos hb] at h
  cases hl : Text.isEmptyText label with
  | true =>
    rw [hl] at h
    cases h
  | false =>
    rw [hl] at h
    cases h

theorem state_record_of_ok (h : (record label figures options c).answer = .ok ()) :
    (record label figures options c).state =
      if options.labels && !c.suppressed then c.bind label figures else c := by
  unfold record at h ⊢
  split at h
  · next hb =>
    rw [if_pos hb, if_pos hb]
    unfold Construction.bind? at h ⊢
    cases hrefusal : Construction.refusal? label figures with
    | none => rfl
    | some problem => rw [hrefusal] at h; cases h
  · next hb => rw [if_neg hb, if_neg hb]

end Record

/-! ### All labels -/

section BindLabels

variable {e : Expr} {figures : List Figure} {options : Options} {c : Construction}

theorem bindLabels_label (name : String) (e : Expr) (figures : List Figure) (options : Options) :
    bindLabels (Syntax.label name e) figures options =
      (bindLabels e figures options >>= fun _ => record name figures options) := by
  obtain ⟨kind, value, l, children⟩ := e
  unfold Syntax.label
  split
  · next h =>
    obtain ⟨rfl, rfl⟩ := h
    rfl
  · rfl

theorem bindLabels_unlabelled (h : Syntax.Unlabelled e) :
    bindLabels e figures options = pure () := by
  cases h with
  | call name arguments => rfl
  | @leaf kind v hc ha =>
    cases kind with
    | assignment => exact absurd rfl ha
    | _ => rfl

theorem bindLabels_quiet (he : Syntax.Shaped e) (h : (options.labels && !c.suppressed) = false) :
    (bindLabels e figures options c).answer = .ok () ∧
      (bindLabels e figures options c).state = c := by
  induction he with
  | unlabelled hu => rw [bindLabels_unlabelled hu]; exact ⟨rfl, rfl⟩
  | @labelled name e hn he ih =>
    obtain ⟨iha, ihs⟩ := ih
    rw [bindLabels_label, Action.answer_bind, Action.state_bind, iha, ihs]
    exact record_quiet h

theorem bindLabels_figures (he : Syntax.Shaped e) (h : (options.labels && !c.suppressed) = true)
    (hf : figures ≠ []) :
    (bindLabels e figures options c).answer = .ok () ∧
      (bindLabels e figures options c).state = c.bindAll e.labelChain figures := by
  induction he with
  | unlabelled hu =>
    rw [bindLabels_unlabelled hu, hu.labelChain_eq]; exact ⟨rfl, rfl⟩
  | @labelled name e hn he ih =>
    obtain ⟨iha, ihs⟩ := ih
    have hwanted : (options.labels && !(c.bindAll e.labelChain figures).suppressed) = true := by
      rw [Construction.suppressed_bindAll]
      exact h
    have hrecord := record_figures hwanted (Syntax.isEmptyText_of_isIdentifier hn) hf
    rw [bindLabels_label, Action.answer_bind, Action.state_bind, iha, ihs, Syntax.labelChain_label,
      Construction.bindAll_append]
    exact hrecord

/-- Without figures, the innermost label is refused, and nothing was bound before it. -/
theorem bindLabels_nothing (he : Syntax.Shaped e) (h : (options.labels && !c.suppressed) = true) :
    (bindLabels e [] options c).state = c ∧
      (bindLabels e [] options c).answer =
        match e.labelChain with
        | [] => .ok ()
        | l :: _ => .error (.invalidInput (.emptyResult l)) := by
  induction he with
  | unlabelled hu =>
    rw [bindLabels_unlabelled hu, hu.labelChain_eq]; exact ⟨rfl, rfl⟩
  | @labelled name e hn he ih =>
    obtain ⟨ihs, iha⟩ := ih
    have hrecord := record_nothing h (Syntax.isEmptyText_of_isIdentifier hn)
    rw [bindLabels_label, Action.answer_bind, Action.state_bind, iha, ihs, Syntax.labelChain_label]
    cases e.labelChain with
    | nil => exact ⟨hrecord.2, hrecord.1⟩
    | cons l ls => exact ⟨rfl, rfl⟩

end BindLabels

end GeoScript
