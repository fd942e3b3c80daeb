import GeoScript.Proofs.Session.Commit

/-! # Moves in a session

A session is used by one move after the other: texts are evaluated, labels are bound and removed,
variables are set, filters and processors come and go. What every move keeps, any number of moves
keeps.

* `Session.Move`, `after`, `afterAll`: the moves, what one of them leaves, and what several do.
* `afterAll_induction`: a property that every move keeps.
* `Session.Change`, `change_after`: all that a move can do to the construction, unless it binds a
  label by hand. -/

namespace GeoScript.Session

open GeoScript.Filter (Handle)

/-- What can be done with a session. -/
inductive Move where
  | run (stamp : Stamp) (text : String)
  | runStrict (text : String) (sliders : Bool)
  | evaluate (stamp : Stamp) (text : String)
  | redefine (stamp : Stamp) (label text : String) (wanted : Bool)
  | validate (stamp : Stamp) (text : String)
  /-- Binds a label by hand, past all filters. -/
  | bind (label : String) (figures : List Figure)
  | remove (label : String)
  | clear
  | suppress (suppressed : Bool)
  | setVariable (name : String) (value : Value)
  | clearVariables
  | addInputFilter (f : Expr → Bool)
  | removeInputFilter (handle : Handle)
  | addOutputFilter (f : List Figure → Bool)
  | removeOutputFilter (handle : Handle)
  | addCommandFilter (f : CommandFilter)
  | removeCommandFilter (handle : Handle)
  | addArgumentFilter (f : ArgumentFilter)
  | removeArgumentFilter (handle : Handle)
  | register (name : String) (p : Processor)

/-- The session after a move. A binding that is refused changes nothing. -/
def after (s : Session) : Move → Session
  | .run stamp text => (s.run stamp text).session
  | .runStrict text sliders => (s.runStrict text sliders).session
  | .evaluate stamp text => (s.evaluate stamp text).session
  | .redefine stamp label text wanted => (s.redefine stamp label text wanted).session
  | .validate stamp text => (s.validate stamp text).session
  | .bind label figures =>
    match s.bind? label figures with
    | .ok bound => bound
    | .error _ => s
  | .remove label => s.remove label
  | .clear => s.clear
  | .suppress suppressed => s.suppress suppressed
  | .setVariable name value => s.setVariable name value
  | .clearVariables => s.withVariables .empty
  | .addInputFilter f => s.addInputFilter f
  | .removeInputFilter handle => s.removeInputFilter handle
  | .addOutputFilter f => s.addOutputFilter f
  | .removeOutputFilter handle => s.removeOutputFilter handle
  | .addCommandFilter f => s.addCommandFilter f
  | .removeCommandFilter handle => s.removeCommandFilter handle
  | .addArgumentFilter f => s.addArgumentFilter f
  | .removeArgumentFilter handle => s.removeArgumentFilter handle
  | .register name p => s.register name p

/-- The session after some moves, one after the other. -/
def afterAll (s : Session) (moves : List Move) : Session := moves.foldl after s

/-- **What every move of a kind keeps, any number of such moves keeps.** -/
theorem afterAll_induction {P : Session → Prop} {allowed : Move → Prop}
    (hstep : ∀ {s m}, allowed m → P s → P (s.after m)) {moves : List Move}
    (hmoves : ∀ m ∈ moves, allowed m) {s : Session} (h : P s) : P (s.afterAll moves) := by
  induction moves generalizing s with
  | nil => exact h
  | cons m moves ih =>
    rw [List.forall_mem_cons] at hmoves
    exact ih hmoves.2 (hstep hmoves.1 h)

/-- A move that neither binds a label by hand nor detaches the output filter of a handle. -/
def Move.Spares (handle : Handle) : Move → Prop
  | .bind _ _ => False
  | .removeOutputFilter other => other ≠ handle
  | _ => True

instance (handle : Handle) : DecidablePred (Move.Spares handle) := fun m =>
  match m with
  | .bind _ _ => .isFalse id
  | .removeOutputFilter other => inferInstanceAs (Decidable (other ≠ handle))
  | .run .. | .runStrict .. | .evaluate .. | .redefine .. | .validate .. | .remove _ | .clear
  | .suppress _ | .setVariable .. | .clearVariables | .addInputFilter _ | .removeInputFilter _
  | .addOutputFilter _ | .addCommandFilter _ | .removeCommandFilter _ | .addArgumentFilter _
  | .removeArgumentFilter _ | .register .. => .isTrue trivial

/-! ### What a move does to the construction -/

/-- What a move makes of the construction: labels are bound only to a result that is not empty and
that the output filters release, and only if they are identifiers or were bound before. -/
inductive Change (s : Session) : Construction → Prop
  | same : s.Change s.construction
  | suppress (suppressed : Bool) : s.Change { s.construction with suppressed }
  | remove (label : String) : s.Change (s.construction.remove label)
  | clear : s.Change s.construction.clear
  | bind (labels : List String) (figures : List Figure)
      (hlabels : ∀ l ∈ labels,
        Syntax.isIdentifier l.toList = true ∨ s.construction.isFree l = false)
      (hne : figures ≠ []) (hreleased : s.releases figures = true) :
      s.Change (s.construction.bindAll labels figures)

section Change

variable {s : Session} {text : String}

theorem change_commit {options : Options} {e : Expr} {figures : List Figure}
    (hp : s.Passes text options s.construction e figures) :
    s.Change (s.construction.commit options e figures) := by
  have hshaped := Expr.shaped_of_read hp.read
  unfold Construction.commit
  split
  · next hwanted =>
    by_cases hne : figures = []
    · have hbound := hp.bound
      rw [hne, (bindLabels_nothing hshaped hwanted).2] at hbound
      cases hchain : e.labelChain with
      | nil => exact .same
      | cons l ls =>
        rw [hchain] at hbound
        cases hbound
    · exact .bind _ _ (fun l hl => .inl (Syntax.isIdentifier_of_mem_labelChain hshaped hl)) hne
        hp.released
  · exact .same

theorem change_runStrict (s : Session) (text : String) (sliders : Bool) :
    s.Change (s.runStrict text sliders).session.construction := by
  cases h : (s.runStrict text sliders).answer with
  | error fault =>
    rw [session_runStrict_of_error s text sliders h]
    exact .same
  | ok figures =>
    obtain ⟨e, hp, hs⟩ := passes_of_ok (Options.redefinition_run sliders) h
    rw [runStrict, session_perform, hs]
    exact change_commit hp

theorem change_redefine (s : Session) (stamp : Stamp) (label text : String) (wanted : Bool) :
    s.Change (s.redefine stamp label text wanted).session.construction := by
  cases h : (s.redefine stamp label text wanted).answer with
  | error fault =>
    rw [session_redefine_of_error h]
    exact .same
  | ok figures =>
    rw [session_redefine_of_ok h]
    obtain ⟨hevaluated, hrecord⟩ := redefinition_ok h
    obtain ⟨e, hp, -⟩ := passes_of_ok redefinition_redefinitionOptions hevaluated
    have hfree : s.construction.isFree label = false := isFree_of_redefinition_ok h
    cases hs : s.construction.suppressed with
    | true => exact .same
    | false =>
      have hne : figures ≠ [] := ne_nil_of_record_ok (by rw [hs]; rfl) hrecord
      refine .bind [label] figures (fun l hl => .inr ?_) hne hp.released
      rw [List.mem_singleton.mp hl, hfree]

/-- **All that a move can do to the construction,** unless it binds a label by hand. -/
theorem change_after {handle : Handle} {m : Move} (hm : m.Spares handle) :
    s.Change (s.after m).construction := by
  cases m with
  | run stamp text =>
    rcases run_cases s stamp text with ⟨figures, -, -, hsession⟩ | ⟨fault, -, -, hsession⟩
    · rw [after, hsession]
      exact change_runStrict s text s.sliders
    · rw [after, hsession]
      exact .same
  | runStrict text sliders => exact change_runStrict s text sliders
  | evaluate stamp text =>
    rw [after, session_evaluate]
    exact .same
  | redefine stamp label text wanted => exact change_redefine s stamp label text wanted
  | bind label figures => exact hm.elim
  | remove label => exact .remove label
  | clear => exact .clear
  | suppress suppressed => exact .suppress suppressed
  | _ => exact .same

/-- **A filter on results stays attached** until its handle is detached. -/
theorem mem_outputFilters_after {handle : Handle} {f : List Figure → Bool} {m : Move}
    (hm : m.Spares handle) (h : (handle, f) ∈ s.outputFilters.entries) :
    (handle, f) ∈ (s.after m).outputFilters.entries := by
  cases m with
  | run stamp text =>
    rcases run_cases s stamp text with ⟨figures, -, -, hsession⟩ | ⟨fault, -, -, hsession⟩
    · rw [after, hsession]
      exact h
    · rw [after, hsession]
      exact h
  | bind label figures => exact hm.elim
  | addOutputFilter g => exact List.mem_append_left _ h
  | removeOutputFilter other =>
    exact List.mem_filter.mpr ⟨h, bne_iff_ne.mpr fun heq => hm heq.symm⟩
  | _ => exact h

end Change

end GeoScript.Session
