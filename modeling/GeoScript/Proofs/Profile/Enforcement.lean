import Mathlib
import GeoScript.Proofs.Evaluation.Call
import GeoScript.Proofs.Profile.Filters
import GeoScript.Proofs.Session.Commit

/-! # Profiles are enforced

While the filters of a profile stay attached to a session, no way to evaluate a text gets past them:
what is answered is permitted, what the rules on commands forbid is refused as such, and what is no
call does not notice the profile.

* `Session.StillAttached`: the filters of a profile are attached to a later session.
* `Session.Yields`, `Session.Refuses`, `Session.Alike`: what the four ways to evaluate a text have
  in common.
* `profile_is_enforced`: the main statement. -/

namespace GeoScript

namespace Session

/-- The filters that were attached to a session from `before` to `after` are attached to `later`. -/
structure StillAttached (before after later : Session) : Prop where
  commands : ∀ x ∈ after.engine.commandFilters.entries.drop
    before.engine.commandFilters.entries.length, x ∈ later.engine.commandFilters.entries
  arguments : ∀ x ∈ after.engine.argumentFilters.entries.drop
    before.engine.argumentFilters.entries.length, x ∈ later.engine.argumentFilters.entries

/-- One of the ways to evaluate a text answers with the figures. -/
inductive Yields (s : Session) (text : String) (figures : List Figure) : Prop
  | run (stamp : Stamp) (h : (s.run stamp text).answer = some figures)
  | strict (sliders : Bool) (h : (s.runStrict text sliders).answer = .ok figures)
  | evaluated (stamp : Stamp) (h : (s.evaluate stamp text).answer = .ok figures)
  | redefined (stamp : Stamp) (label : String) (wanted : Bool)
      (h : (s.redefine stamp label text wanted).answer = .ok figures)

/-- Every way to evaluate a text ends by the fault; a redefinition does if it gets as far as the
text. -/
structure Refuses (s : Session) (text : String) (fault : Fault) : Prop where
  run : ∀ stamp, (s.run stamp text).answer = none ∧ (s.run stamp text).session.faults.last =
    some { fault.record with evalId := some stamp.evalId }
  strict : ∀ sliders, (s.runStrict text sliders).answer = .error fault
  evaluated : ∀ stamp, (s.evaluate stamp text).answer = .error fault
  redefined : ∀ stamp label, s.construction.isFree label = false →
    (s.redefine stamp label text true).answer = .error fault

/-- Two sessions differ at most in the engine, the log of faults and the setting for sliders. -/
structure SameGround (s t : Session) : Prop where
  vars : s.vars = t.vars
  construction : s.construction = t.construction
  inputFilters : s.inputFilters = t.inputFilters
  outputFilters : s.outputFilters = t.outputFilters

/-- Every way to evaluate a text has the same answer in two sessions, and leaves the same
construction. -/
structure Alike (s t : Session) (text : String) : Prop where
  run : ∀ stamp, (s.run stamp text).answer = (t.run stamp text).answer ∧
    (s.run stamp text).session.construction = (t.run stamp text).session.construction
  strict : ∀ sliders, (s.runStrict text sliders).answer = (t.runStrict text sliders).answer ∧
    (s.runStrict text sliders).session.construction =
      (t.runStrict text sliders).session.construction
  evaluated : ∀ stamp, (s.evaluate stamp text).answer = (t.evaluate stamp text).answer ∧
    (s.evaluate stamp text).session.construction = (t.evaluate stamp text).session.construction
  redefined : ∀ stamp label wanted,
    (s.redefine stamp label text wanted).answer = (t.redefine stamp label text wanted).answer ∧
      (s.redefine stamp label text wanted).session.construction =
        (t.redefine stamp label text wanted).session.construction

/-! ### What an evaluation asks of the engine -/

section Engine

variable {s : Session} {text : String} {e : Expr} {name : String}

/-- A text whose root is a call is answered only if the engine answers the call. -/
theorem call_of_evaluateText {options : Options} (hr : options.redefinition = true)
    {c : Construction} {figures : List Figure}
    (h : (s.evaluateText text options c).answer = .ok figures)
    (hread : s.workspace.read text = .ok e) (hname : e.root.commandName? = some name) :
    ∃ options', (s.engine.call name e.root.arguments options').answer = .ok figures := by
  obtain ⟨e', hp, -⟩ := passes_of_ok hr h
  cases hp.read.symm.trans hread
  have hcall := answer_evaluate_call c (Options.labels_withLabels options false) hr s.engine hname
  exact ⟨_, hcall.symm.trans hp.computed⟩

theorem call_of_yields {figures : List Figure} (h : s.Yields text figures)
    (hread : s.workspace.read text = .ok e) (hname : e.root.commandName? = some name) :
    ∃ options, (s.engine.call name e.root.arguments options).answer = .ok figures := by
  cases h with
  | run stamp h =>
    rcases run_cases s stamp text with ⟨figures', hstrict, ha, -⟩ | ⟨fault, -, ha, -⟩
    · cases h.symm.trans ha
      exact call_of_evaluateText (Options.redefinition_run s.sliders) hstrict hread hname
    · cases h.symm.trans ha
  | strict sliders h =>
    exact call_of_evaluateText (Options.redefinition_run sliders) h hread hname
  | evaluated stamp h =>
    exact call_of_evaluateText Options.redefinition_evaluate h hread hname
  | redefined stamp label wanted h =>
    exact call_of_evaluateText redefinition_redefinitionOptions (redefinition_ok h).1 hread hname

theorem answer_evaluateText_of_call {options : Options} (hr : options.redefinition = true)
    {c : Construction} {fault : Fault} (hread : s.workspace.read text = .ok e)
    (hadmits : s.admits e = true) (hname : e.root.commandName? = some name)
    (h : ∀ options, (s.engine.call name e.root.arguments options).answer = .error fault) :
    (s.evaluateText text options c).answer = .error fault := by
  have hcall := answer_evaluate_call c (Options.labels_withLabels options false) hr s.engine hname
  rw [answer_evaluateText s text c hr, isEmptyText_of_read hread, hread]
  simp only [Bool.false_eq_true, ↓reduceIte, Except.bind, hadmits, hcall, h]

theorem refuses_of_call {fault : Fault} (hread : s.workspace.read text = .ok e)
    (hadmits : s.admits e = true) (hname : e.root.commandName? = some name)
    (h : ∀ options, (s.engine.call name e.root.arguments options).answer = .error fault) :
    s.Refuses text fault := by
  have hanswer : ∀ {options : Options}, options.redefinition = true →
      (s.evaluateText text options s.construction).answer = .error fault :=
    fun hr => answer_evaluateText_of_call hr hread hadmits hname h
  have hstrict : ∀ sliders, (s.runStrict text sliders).answer = .error fault :=
    fun sliders => hanswer (Options.redefinition_run sliders)
  refine ⟨fun stamp => ?_, hstrict, fun stamp => hanswer Options.redefinition_evaluate,
    fun stamp label hlabel => ?_⟩
  · rcases run_cases s stamp text with ⟨figures, ha, -, -⟩ | ⟨fault', ha, hrun, hsession⟩
    · cases ha.symm.trans (hstrict _)
    · cases ha.symm.trans (hstrict _)
      refine ⟨hrun, ?_⟩
      rw [hsession]
      rfl
  · refine (answer_redefinition s label text true s.construction).trans ?_
    rw [hlabel, hanswer redefinition_redefinitionOptions]
    rfl

end Engine

/-! ### Texts that are no calls -/

section Leaf

variable {s t : Session} {text : String}

theorem commit_congr {options options' : Options} (h : options.labels = options'.labels)
    (c : Construction) (e : Expr) (figures : List Figure) :
    c.commit options e figures = c.commit options' e figures := by
  unfold Construction.commit
  rw [h]

theorem bindLabels_congr {options options' : Options} (h : options.labels = options'.labels)
    (e : Expr) (figures : List Figure) :
    bindLabels e figures options = bindLabels e figures options' := by
  have hrecord : ∀ l, record l figures options = record l figures options' := by
    intro l
    funext c
    unfold record
    rw [h]
  induction e using bindLabels.induct with
  | case1 rhs label children ih => simp only [bindLabels, ih, hrecord]
  | case2 kind value label children hother =>
    rw [bindLabels.eq_2 _ _ _ _ _ _ hother, bindLabels.eq_2 _ _ _ _ _ _ hother]
    simp only [hrecord]

theorem evaluateText_leaf (hground : s.SameGround t)
    (hroot : ∀ e, s.workspace.read text = .ok e → e.root.kind ≠ .command)
    {options options' : Options} (hr : options.redefinition = true)
    (hr' : options'.redefinition = true) (hlabels : options.labels = options'.labels)
    (c : Construction) :
    (s.evaluateText text options c).answer = (t.evaluateText text options' c).answer ∧
      (s.evaluateText text options c).state = (t.evaluateText text options' c).state := by
  have hread : t.workspace.read text = s.workspace.read text := read_congr hground.vars.symm text
  have hadmits : t.admits = s.admits := admits_congr hground.inputFilters.symm
  have hreleases : t.releases = s.releases := releases_congr hground.outputFilters.symm
  have hanswer :
      (s.evaluateText text options c).answer = (t.evaluateText text options' c).answer := by
    rw [answer_evaluateText s text c hr, answer_evaluateText t text c hr', hread]
    cases hcase : s.workspace.read text with
    | error fault => rfl
    | ok e =>
      have hleaf := answer_evaluate_leaf c (Options.labels_withLabels options false) hr s.engine
        (hroot e hcase) (Options.labels_withLabels options' false) hr' t.engine
      simp only [Except.bind, hadmits, hleaf, hreleases, bindLabels_congr hlabels]
  refine ⟨hanswer, ?_⟩
  rw [state_evaluateText s text c hr, state_evaluateText t text c hr', hanswer, hread]
  simp only [commit_congr hlabels]

theorem alike_of_leaf (hground : s.SameGround t)
    (hroot : ∀ e, s.workspace.read text = .ok e → e.root.kind ≠ .command) : s.Alike t text := by
  have hc := hground.construction
  have htext : ∀ {options options' : Options}, options.redefinition = true →
      options'.redefinition = true → options.labels = options'.labels →
      (s.evaluateText text options s.construction).answer =
          (t.evaluateText text options' t.construction).answer ∧
        (s.evaluateText text options s.construction).state =
          (t.evaluateText text options' t.construction).state := by
    intro options options' hr hr' hlabels
    rw [← hc]
    exact evaluateText_leaf hground hroot hr hr' hlabels s.construction
  have hstrict : ∀ sliders sliders',
      (s.runStrict text sliders).answer = (t.runStrict text sliders').answer ∧
        (s.runStrict text sliders).session.construction =
          (t.runStrict text sliders').session.construction :=
    fun sliders sliders' =>
      htext (Options.redefinition_run sliders) (Options.redefinition_run sliders') rfl
  refine ⟨fun stamp => ?_, fun sliders => hstrict sliders sliders,
    fun stamp => htext Options.redefinition_evaluate Options.redefinition_evaluate rfl,
    fun stamp label wanted => ?_⟩
  · obtain ⟨ha, hs⟩ := hstrict s.sliders t.sliders
    rcases run_cases s stamp text with ⟨f, h1, h2, h3⟩ | ⟨f, h1, h2, h3⟩ <;>
      rcases run_cases t stamp text with ⟨g, k1, k2, k3⟩ | ⟨g, k1, k2, k3⟩
    · rw [h1, k1] at ha
      cases ha
      rw [h2, k2, h3, k3]
      exact ⟨rfl, hs⟩
    · rw [h1, k1] at ha; cases ha
    · rw [h1, k1] at ha; cases ha
    · rw [h2, k2, h3, k3]
      exact ⟨rfl, hc⟩
  · have hanswer : (s.redefinition label text wanted s.construction).answer =
        (t.redefinition label text wanted t.construction).answer := by
      rw [answer_redefinition, answer_redefinition,
        (htext redefinition_redefinitionOptions redefinition_redefinitionOptions rfl).1, hc]
    refine ⟨hanswer, ?_⟩
    change (s.redefinition label text wanted s.construction).state =
      (t.redefinition label text wanted t.construction).state
    rw [state_redefinition, state_redefinition, hanswer, hc]

end Leaf

/-! ### The filters of a profile -/

theorem applyTo_cases {p : Profile} {s s' : Session} {handles : List Filter.Handle} {log : Log}
    (h : p.applyTo s = .ok (s', handles, log)) :
    ∃ r, p.resolve = .ok r ∧
      s'.engine.commandFilters = (s.engine.commandFilters.addAll r.commandFilters).1 ∧
      s'.engine.argumentFilters = (s.engine.argumentFilters.addAll r.argumentFilters).1 := by
  obtain ⟨r, hr, rfl, -⟩ := Profile.applyTo_ok h
  exact ⟨r, hr, rfl, rfl⟩

theorem mem_filters_of_addAll {α : Type} {chain later : Filter.Chain α} {fs : List α}
    (h : ∀ x ∈ (chain.addAll fs).1.entries.drop chain.entries.length, x ∈ later.entries) :
    ∀ f ∈ fs, f ∈ later.filters := by
  obtain ⟨added, hentries, hfilters⟩ := chain.entries_addAll fs
  rw [hentries, List.drop_left] at h
  intro f hf
  rw [← hfilters] at hf
  obtain ⟨x, hx, rfl⟩ := List.mem_map.mp hf
  exact List.mem_map_of_mem (h x hx)

end Session

/-- **A profile is enforced.** While its filters stay attached, an answer to a text whose root is a
call is an answer to a call that the profile permits; a call of a command that its rules forbid is
refused as such; and a text whose root is no call fares as it would without the filters. -/
theorem profile_is_enforced {p : Profile} {s s' later : Session} {handles : List Filter.Handle}
    {log : Log} (happly : p.applyTo s = .ok (s', handles, log))
    (hattached : Session.StillAttached s s' later) (text : String) :
    (∀ figures, later.Yields text figures → ∀ e, later.workspace.read text = .ok e →
      ∀ name, e.root.commandName? = some name →
        (∃ c, Command.find? name = some c ∧ p.commands.Permits c) ∧
          p.arguments.Permits e.root.arguments.length) ∧
    (∀ e name c, later.workspace.read text = .ok e → later.admits e = true →
      e.root.commandName? = some name → Command.find? name = some c → ¬ p.commands.Permits c →
        later.Refuses text (.commandNotAllowed name)) ∧
    ∀ other : Session, later.SameGround other →
      (∀ e, later.workspace.read text = .ok e → e.root.kind ≠ .command) →
        later.Alike other text := by
  obtain ⟨r, hresolve, hcommands, harguments⟩ := Session.applyTo_cases happly
  have hcommandFilters : ∀ f ∈ r.commandFilters, f ∈ later.engine.commandFilters.filters :=
    Session.mem_filters_of_addAll (hcommands ▸ hattached.commands)
  have hargumentFilters : ∀ f ∈ r.argumentFilters, f ∈ later.engine.argumentFilters.filters :=
    Session.mem_filters_of_addAll (harguments ▸ hattached.arguments)
  refine ⟨fun figures hyields e hread name hname => ?_,
    fun e name c hread hadmits hname hfind hforbidden => ?_,
    fun other hground hroot => Session.alike_of_leaf hground hroot⟩
  · obtain ⟨options, hcall⟩ := Session.call_of_yields hyields hread hname
    obtain ⟨c, hfind, hallows, hchecks⟩ := Engine.call_ok hcall
    refine ⟨⟨c, hfind, ?_⟩, ?_⟩
    · exact (Profile.resolve_permits_iff hresolve c).mp fun f hf => hallows f (hcommandFilters f hf)
    · exact (Profile.resolve_bounds_iff hresolve name _).mp
        fun f hf => hchecks f (hargumentFilters f hf)
  · rw [← Profile.resolve_permits_iff hresolve] at hforbidden
    simp only [Classical.not_forall] at hforbidden
    obtain ⟨f, hf, hrefused⟩ := hforbidden
    exact Session.refuses_of_call hread hadmits hname fun options =>
      Engine.call_refused hfind (hcommandFilters f hf) (by simpa using hrefused)

/-- Under a profile that allows points only, a line is refused under any label. -/
theorem profile_is_enforced_line :
    let p : Profile := { Profile.default with
      commands := { allowed := some ["Point"], casAllowed := false, deniedCategories := [" Text "] }
      arguments := { least := some 1, greatest := some 2 } }
    ∃ s' handles log, p.applyTo Session.initial = .ok (s', handles, log) ∧
      Session.StillAttached Session.initial s' s' ∧
      s'.Refuses "B = A = Line(x, [y])" (.commandNotAllowed "Line") := by
  intro p
  have happly : ∃ s' handles log, p.applyTo Session.initial = .ok (s', handles, log) ∧
      s'.vars = .empty ∧ ∀ e, s'.admits e = true := ⟨_, _, _, rfl, rfl, fun _ => rfl⟩
  obtain ⟨s', handles, log, happly, hvars, hadmits⟩ := happly
  have hattached : Session.StillAttached Session.initial s' s' :=
    ⟨fun _ hx => List.mem_of_mem_drop hx, fun _ hx => List.mem_of_mem_drop hx⟩
  have hread : s'.workspace.read "B = A = Line(x, [y])" = .ok (.assignment "B"
      ((Expr.command "Line" [.text "x", .list [.text "y"]]).withLabel "A")) := by
    change Expr.read s'.vars _ = _
    rw [hvars]
    cbv
  have hforbidden : ¬ p.commands.Permits .line := fun h => by
    have := h.listed ["Point"] rfl
    revert this
    decide
  exact ⟨s', handles, log, happly, hattached, (profile_is_enforced happly hattached _).2.1 _ "Line"
    .line hread (hadmits _) rfl rfl hforbidden⟩

end GeoScript
