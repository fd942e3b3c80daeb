import GeoScript.Evaluation.Definitions
import GeoScript.Proofs.Evaluation.Call
import GeoScript.Session.Run

/-! # What is reported on the way

While a text is read and evaluated only notes are reported: no event says that an operation starts
or ends. What else there is comes from a processor, which can report what it likes; those of this
library report notes only.

* `Event.IsNote`: an event that marks no boundary.
* `Action.Reports`: an action all whose events are of one kind, however it ends. `Reports.bind`: one
  action after another.
* `Engine.Utters`: what the processors of an engine report.
* `reports_evaluate`, `reports_bindLabels`: evaluating and binding, by recursion on the expression.
* `Session.reports_evaluateText`, `Session.reports_redefinition`: all stages together. -/

namespace GeoScript

namespace Event

/-- An event that marks no boundary of an operation. -/
def IsNote (v : Event) : Prop := v.operation? = none ∧ v.boundary? = none

instance : DecidablePred IsNote := fun v =>
  inferInstanceAs (Decidable (v.operation? = none ∧ v.boundary? = none))

/-- A note marks no boundary, unless one of its fields is called like those of a boundary. -/
theorem isNote_note (level : Level) (message : String) {fields : List (String × String)}
    (hop : fields.lookup "op" = none) (hevent : fields.lookup "event" = none) :
    (note level message fields).IsNote :=
  ⟨hop, hevent⟩

end Event

/-! ### Actions all whose events are of one kind -/

namespace Action

variable {σ α β : Type} {P Q : Event → Prop}

/-- Every event that an action reports is of a kind, from whatever state it starts. -/
def Reports (P : Event → Prop) (x : Action σ α) : Prop := ∀ s, ∀ v ∈ (x s).log, P v

theorem Reports.mono {x : Action σ α} (h : x.Reports P) (hPQ : ∀ v, P v → Q v) : x.Reports Q :=
  fun s v hv => hPQ v (h s v hv)

theorem reports_pure (a : α) : (Pure.pure a : Action σ α).Reports P :=
  fun _ => List.forall_mem_nil _

theorem reports_fail (fault : Fault) : (fail fault : Action σ α).Reports P :=
  fun _ => List.forall_mem_nil _

theorem reports_ofExcept (answer : Except Fault α) : (ofExcept answer : Action σ α).Reports P :=
  fun _ => List.forall_mem_nil _

theorem reports_ofTraced {t : Traced α} (h : ∀ v ∈ t.log, P v) :
    (ofTraced t : Action σ α).Reports P :=
  fun _ => h

/-- **One action after another** reports what both of them report. -/
theorem Reports.bind {x : Action σ α} {f : α → Action σ β} (hx : x.Reports P)
    (hf : ∀ a, (f a).Reports P) : (x >>= f).Reports P := by
  intro s v hv
  cases h : (x s).answer with
  | error fault =>
    rw [bind_of_error f h] at hv
    exact hx s v hv
  | ok a =>
    rw [bind_of_ok f h] at hv
    rcases List.mem_append.mp hv with hv | hv
    · exact hx s v hv
    · exact hf a _ v hv

theorem reports_forM {f : α → Action σ Unit} (h : ∀ a, (f a).Reports P) (o : Option α) :
    (o.forM f).Reports P := by
  cases o with
  | none => exact reports_pure ()
  | some a => exact h a

end Action

/-! ### Processors and calls -/

namespace Engine

/-- A processor of the engine reports the event, for some command, arguments and options. -/
def Utters (e : Engine) (v : Event) : Prop :=
  ∃ name p c arguments options,
    e.processors.get? name = some p ∧ v ∈ (p c arguments options).log

/-- What is reported below the boundaries: notes, and what the processors report. -/
def Lower (e : Engine) (v : Event) : Prop := v.IsNote ∨ e.Utters v

/-- An engine whose processors report notes only. -/
def ReportsNotes (e : Engine) : Prop :=
  ∀ name p, e.processors.get? name = some p → ∀ c arguments options,
    ∀ v ∈ (p c arguments options).log, v.IsNote

theorem ReportsNotes.isNote {e : Engine} (h : e.ReportsNotes) {v : Event} (hv : e.Lower v) :
    v.IsNote := by
  rcases hv with hv | ⟨name, p, c, arguments, options, hp, hv⟩
  · exact hv
  · exact h name p hp c arguments options v hv

theorem isNote_basicProcessor (c : Command) (arguments : List Value) (options : Options) :
    ∀ v ∈ (basicProcessor c arguments options).log, v.IsNote := by
  unfold basicProcessor
  split
  · exact List.forall_mem_nil _
  · exact List.forall_mem_singleton.mpr (Event.isNote_note _ _ rfl rfl)

theorem isNote_processor (definitions : Definitions) (c : Command) (arguments : List Value)
    (options : Options) : ∀ v ∈ (definitions.processor c arguments options).log, v.IsNote := by
  unfold Definitions.processor
  split <;> exact List.forall_mem_nil _

theorem reportsNotes_initial : initial.ReportsNotes := by
  intro name p hp
  rw [eq_basicProcessor_of_initial hp]
  exact isNote_basicProcessor

theorem ReportsNotes.register {e : Engine} (h : e.ReportsNotes) (name : String) {p : Processor}
    (hp : ∀ c arguments options, ∀ v ∈ (p c arguments options).log, v.IsNote) :
    (e.register name p).ReportsNotes :=
  forall_register h name hp

/-- **A call reports notes,** and what its processor reports. -/
theorem lower_of_mem_call {e : Engine} {name : String} {arguments : List Value}
    {options : Options} : ∀ v ∈ (e.call name arguments options).log, e.Lower v := by
  intro v hv
  unfold call at hv
  split at hv
  · cases hv
  · next c _ =>
    split at hv
    · split at hv
      · cases hv
      · next p hp =>
        split at hv
        · cases hv
        · rcases List.mem_cons.mp hv with rfl | hv
          · exact .inl (Event.isNote_note _ _ rfl rfl)
          · exact .inr ⟨name, p, c, arguments, options, hp, hv⟩
    · rw [List.mem_singleton.mp hv]
      exact .inl (Event.isNote_note _ _ rfl rfl)

end Engine

/-! ### Evaluating and binding -/

section Evaluate

variable {P : Event → Prop} (engine : Engine) (options : Options)

theorem reports_checkRedefinition (label : String) : (checkRedefinition label options).Reports P := by
  intro c v hv
  unfold checkRedefinition at hv
  split at hv <;> cases hv

theorem reports_record (label : String) (figures : List Figure) :
    (record label figures options).Reports Event.IsNote := by
  have hnote : ∀ level message, ∀ v ∈ [Event.note level message [("label", label)]], v.IsNote :=
    fun _ _ => List.forall_mem_singleton.mpr (Event.isNote_note _ _ rfl rfl)
  intro c
  unfold record
  dsimp only
  split
  · split <;> exact hnote _ _
  · exact hnote _ _

theorem reports_label (label : String) {x : Action Construction (List Figure)}
    (hx : x.Reports engine.Lower) :
    (do
      checkRedefinition label options
      let figures ← x
      record label figures options
      return figures : Action Construction (List Figure)).Reports engine.Lower :=
  (reports_checkRedefinition options label).bind fun _ => hx.bind fun figures =>
    ((reports_record options label figures).mono fun _ => .inl).bind fun _ =>
      Action.reports_pure figures

/-- **Evaluating reports notes,** and what processors report. -/
theorem reports_evaluate (e : Expr) : (evaluate engine options e).Reports engine.Lower := by
  induction e using evaluate.induct with
  | case1 rhs l children ih => exact reports_label engine options l ih
  | case2 value label children hmalformed =>
    rw [evaluate.eq_2 _ _ _ _ _ hmalformed]
    exact Action.reports_fail _
  | case3 value label children =>
    rw [evaluate.eq_3]
    unfold evaluateCommand
    split
    · exact Action.reports_fail _
    · refine (Action.reports_forM (reports_checkRedefinition options) _).bind fun _ => ?_
      refine (Action.reports_ofTraced fun _ => Engine.lower_of_mem_call _).bind fun figures => ?_
      refine (Action.reports_forM (fun l => ?_) _).bind fun _ => Action.reports_pure figures
      exact (reports_record options l figures).mono fun _ => .inl
  | case4 e h1 h2 h3 =>
    rw [evaluate.eq_4 _ _ _ h1 h2 h3]
    exact Action.reports_ofExcept _

theorem reports_bindLabels (e : Expr) (figures : List Figure) :
    (bindLabels e figures options).Reports Event.IsNote := by
  induction e using bindLabels.induct with
  | case1 rhs label children ih =>
    rw [bindLabels]
    exact ih.bind fun _ => Action.reports_forM (fun l => reports_record options l figures) _
  | case2 kind value label children h =>
    rw [bindLabels.eq_2 _ _ _ _ _ _ h]
    exact Action.reports_forM (fun l => reports_record options l figures) _

theorem isNote_of_mem_readingLog (e : Expr) : ∀ v ∈ readingLog e, v.IsNote := by
  induction e using readingLog.induct with
  | case1 rhs l children ih =>
    rw [readingLog]
    exact List.forall_mem_append.mpr
      ⟨ih, List.forall_mem_singleton.mpr (Event.isNote_note _ _ rfl rfl)⟩
  | case2 value l children =>
    rw [readingLog]
    exact List.forall_mem_singleton.mpr (Event.isNote_note _ _ rfl rfl)
  | case3 e h1 h2 =>
    rw [readingLog.eq_3 _ h1 h2]
    exact List.forall_mem_nil _

end Evaluate

/-! ### Texts -/

namespace Session

variable (s : Session)

theorem isNote_of_mem_readText (text : String) : ∀ v ∈ (s.readText text).log, v.IsNote := by
  unfold readText
  split
  · exact List.forall_mem_nil _
  · split
    · exact List.forall_mem_nil _
    · exact isNote_of_mem_readingLog _

/-- **All stages of an evaluation** report notes, and what processors report. -/
theorem reports_evaluateText (text : String) (options : Options) :
    (s.evaluateText text options).Reports s.engine.Lower := by
  unfold evaluateText
  refine (Action.reports_ofTraced fun v hv => .inl (s.isNote_of_mem_readText text v hv)).bind
    fun e => ?_
  split
  · refine (reports_evaluate s.engine _ e).bind fun figures => ?_
    split
    · exact ((reports_bindLabels options e figures).mono fun _ => .inl).bind fun _ =>
        Action.reports_pure figures
    · exact Action.reports_fail _
  · exact Action.reports_fail _

theorem reports_redefinition (label text : String) (wanted : Bool) :
    (s.redefinition label text wanted).Reports s.engine.Lower := by
  unfold redefinition
  split
  · exact Action.reports_fail _
  · split
    · exact Action.reports_fail _
    · exact (s.reports_evaluateText text _).bind fun figures =>
        ((reports_record _ label figures).mono fun _ => .inl).bind fun _ =>
          Action.reports_pure figures

end Session

end GeoScript
