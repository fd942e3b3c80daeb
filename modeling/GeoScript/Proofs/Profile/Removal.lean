import GeoScript.Proofs.Profile.Installation
import GeoScript.Proofs.Session.History

/-! # Taking the filters of a profile away

A profile answers with one list of handles, those of its filters on commands and then those of its
filters on arguments. The two chains number their handles apart, so a handle means a filter only
together with its chain: given to its own chain it detaches the filter of the profile, but given to
the other chain as well it detaches there whatever filter has the same number.

* `Chain.removeAll`, `entries_removeAll`: what detaching some handles leaves.
* `ExtendedBy.entries_removeAll`: with the handles of some filters these are gone, and nothing shows
  that they ever were attached.
* `Session.Numbered`, `numbered_afterAll`, `numbered_applyTo`: handles in use were given before.
* `Session.detach`: detaching some handles from either chain.
* `Profile.filters_are_taken_away`: the main statement. -/

namespace GeoScript

open GeoScript.Filter (Chain Handle)

/-! ### Detaching several handles -/

namespace Filter.Chain

variable {α : Type}

/-- Detaches the filters of some handles, one after the other. -/
def removeAll (chain : Chain α) (handles : List Handle) : Chain α := handles.foldl remove chain

theorem entries_removeAll (chain : Chain α) (handles : List Handle) :
    (chain.removeAll handles).entries = chain.entries.filter fun e => e.1 ∉ handles := by
  induction handles generalizing chain with
  | nil => simp [removeAll]
  | cons handle handles ih =>
    have hstep : chain.removeAll (handle :: handles) = (chain.remove handle).removeAll handles := rfl
    rw [hstep, ih, remove, List.filter_filter]
    refine List.filter_congr fun e _ => ?_
    by_cases he : e.1 = handle <;> simp [he]

theorem entries_removeAll_eq_iff (chain : Chain α) (handles : List Handle) :
    (chain.removeAll handles).entries = chain.entries ↔ ∀ e ∈ chain.entries, e.1 ∉ handles := by
  rw [entries_removeAll, List.filter_eq_self]
  simp only [decide_eq_true_eq]

theorem Numbered.addAll {chain : Chain α} (h : chain.Numbered) (filters : List α) :
    (chain.addAll filters).1.Numbered := by
  induction filters generalizing chain with
  | nil => exact h
  | cons f fs ih => exact ih (h.add f)

section ExtendedBy

variable {chain later : Chain α} {filters : List α} {handles : List Handle}

theorem ExtendedBy.length_eq (h : chain.ExtendedBy filters later handles) :
    handles.length = filters.length := by
  have hlength := congrArg List.length h.numbers
  rwa [List.length_map, List.length_range'] at hlength

theorem ExtendedBy.next_le (h : chain.ExtendedBy filters later handles) :
    ∀ handle ∈ handles, chain.next ≤ handle.number := by
  intro handle hmem
  have hnumber : handle.number ∈ handles.map Handle.number := List.mem_map_of_mem hmem
  rw [h.numbers, List.mem_range'_1] at hnumber
  exact hnumber.1

/-- **Detaching filters, among others, comes to not having attached them.** -/
theorem ExtendedBy.entries_removeAll (h : chain.ExtendedBy filters later handles)
    {others : List Handle} (hsub : handles ⊆ others) :
    (later.removeAll others).entries = (chain.removeAll others).entries := by
  have hnone : (handles.zip filters).filter (fun e => e.1 ∉ others) = [] := by
    rw [List.filter_eq_nil_iff]
    rintro ⟨handle, f⟩ he
    have hmem := hsub (List.of_mem_zip he).1
    simpa using hmem
  rw [Chain.entries_removeAll, Chain.entries_removeAll, h.entries, List.filter_append, hnone,
    List.append_nil]

theorem ExtendedBy.not_mem (h : chain.ExtendedBy filters later handles) (hn : chain.Numbered) :
    ∀ e ∈ chain.entries, e.1 ∉ handles := by
  intro e he hmem
  have hbefore := hn e he
  have hafter := h.next_le e.1 hmem
  omega

/-- With their own handles, the filters that were attached are gone and the others are left. -/
theorem ExtendedBy.entries_removeAll_self (h : chain.ExtendedBy filters later handles)
    (hn : chain.Numbered) : (later.removeAll handles).entries = chain.entries := by
  rw [h.entries_removeAll (List.Subset.refl handles), entries_removeAll_eq_iff]
  exact h.not_mem hn

theorem ExtendedBy.entries_removeAll_of_mem_iff (h : chain.ExtendedBy filters later handles)
    (hn : chain.Numbered) {all others : List Handle}
    (hall : ∀ handle, handle ∈ all ↔ handle ∈ handles ∨ handle ∈ others) :
    (later.removeAll all).entries = chain.entries.filter fun e => e.1 ∉ others := by
  rw [h.entries_removeAll fun handle hmem => (hall handle).mpr (.inl hmem),
    Chain.entries_removeAll]
  refine List.filter_congr fun e he => ?_
  have hnot := h.not_mem hn e he
  simp [hall, hnot]

end ExtendedBy

end Filter.Chain

namespace Session

/-! ### Handles in use -/

/-- The handles in use were given before those that are given next, in both chains. -/
structure Numbered (s : Session) : Prop where
  commands : s.engine.commandFilters.Numbered
  arguments : s.engine.argumentFilters.Numbered

theorem numbered_initial : initial.Numbered := ⟨Chain.numbered_empty, Chain.numbered_empty⟩

theorem Numbered.of_engine {s t : Session} (h : s.Numbered) (he : t.engine = s.engine) :
    t.Numbered := by
  obtain ⟨hcommands, harguments⟩ := h
  rw [← he] at hcommands harguments
  exact ⟨hcommands, harguments⟩

/-- **A move keeps handles in use below those that are given next.** -/
theorem Numbered.after {s : Session} (h : s.Numbered) (m : Move) : (s.after m).Numbered := by
  cases m with
  | run stamp text =>
    rcases run_cases s stamp text with ⟨figures, -, -, hsession⟩ | ⟨fault, -, -, hsession⟩ <;>
      exact h.of_engine (by rw [Session.after, hsession]; rfl)
  | bind label figures =>
    rw [Session.after]
    cases hbound : s.bind? label figures with
    | ok bound => exact h.of_engine (sameRules_of_bind? s hbound).engine
    | error fault => exact h
  | addCommandFilter f => exact ⟨h.commands.add f, h.arguments⟩
  | removeCommandFilter handle => exact ⟨h.commands.remove handle, h.arguments⟩
  | addArgumentFilter f => exact ⟨h.commands, h.arguments.add f⟩
  | removeArgumentFilter handle => exact ⟨h.commands, h.arguments.remove handle⟩
  | register name p => exact ⟨h.commands, h.arguments⟩
  | _ => exact h.of_engine rfl

theorem numbered_afterAll {s : Session} (h : s.Numbered) (moves : List Move) :
    (s.afterAll moves).Numbered := by
  have hstep : ∀ {t : Session} {m : Move}, True → t.Numbered → (t.after m).Numbered :=
    fun {_ m} _ ht => ht.after m
  exact afterAll_induction hstep (fun _ _ => trivial) h

theorem numbered_applyTo {p : Profile} {s t : Session} {handles : List Handle} {log : Log}
    (h : s.Numbered) (hok : p.applyTo s = .ok (t, handles, log)) : t.Numbered := by
  obtain ⟨r, -, rfl, -⟩ := Profile.applyTo_ok hok
  exact ⟨h.commands.addAll r.commandFilters, h.arguments.addAll r.argumentFilters⟩

/-! ### Detaching handles from both chains -/

/-- Detaches some handles from the chain of filters on commands, and some from that of filters on
arguments. -/
def detach (s : Session) (commandHandles argumentHandles : List Handle) : Session :=
  argumentHandles.foldl removeArgumentFilter (commandHandles.foldl removeCommandFilter s)

theorem foldl_removeCommandFilter (s : Session) (handles : List Handle) :
    handles.foldl removeCommandFilter s = s.withEngine { s.engine with
      commandFilters := s.engine.commandFilters.removeAll handles } := by
  induction handles generalizing s with
  | nil => rfl
  | cons handle handles ih =>
    rw [List.foldl_cons, ih]
    rfl

theorem foldl_removeArgumentFilter (s : Session) (handles : List Handle) :
    handles.foldl removeArgumentFilter s = s.withEngine { s.engine with
      argumentFilters := s.engine.argumentFilters.removeAll handles } := by
  induction handles generalizing s with
  | nil => rfl
  | cons handle handles ih =>
    rw [List.foldl_cons, ih]
    rfl

theorem detach_eq (s : Session) (commandHandles argumentHandles : List Handle) :
    s.detach commandHandles argumentHandles = s.withEngine { s.engine with
      commandFilters := s.engine.commandFilters.removeAll commandHandles
      argumentFilters := s.engine.argumentFilters.removeAll argumentHandles } := by
  rw [detach, foldl_removeCommandFilter, foldl_removeArgumentFilter]
  rfl

/-- Two sessions with the same filters on commands and on arguments, under the same handles. -/
@[mk_iff]
structure SameFilters (s t : Session) : Prop where
  commands : s.engine.commandFilters.entries = t.engine.commandFilters.entries
  arguments : s.engine.argumentFilters.entries = t.engine.argumentFilters.entries

end Session

namespace Profile

/-! ### The main statement -/

/-- **The filters of a profile can be taken away by their handles.** The answer of a profile that
applies lists the handles of its filters on commands, and after them those of its filters on
arguments. If every handle is given back to its own chain, both chains hold the filters that they
held before, under the same handles. If every handle is given to both chains, the filters of the
profile are detached as well, and besides them those filters from before whose handles the profile
got from the other chain; so both chains hold what they held before exactly if there are none. The
same goes for a profile that is applied after this one. -/
theorem filters_are_taken_away {p : Profile} {s t : Session} {handles : List Handle} {log : Log}
    (hs : s.Numbered) (hok : p.applyTo s = .ok (t, handles, log)) :
    t.Numbered ∧ ∃ r commandHandles argumentHandles, p.StandsFor r ∧
      handles = commandHandles ++ argumentHandles ∧
      s.engine.commandFilters.ExtendedBy r.commandFilters t.engine.commandFilters commandHandles ∧
      s.engine.argumentFilters.ExtendedBy r.argumentFilters t.engine.argumentFilters
        argumentHandles ∧
      (t.detach commandHandles argumentHandles).SameFilters s ∧
      (t.detach handles handles).engine.commandFilters.entries =
        s.engine.commandFilters.entries.filter (fun e => e.1 ∉ argumentHandles) ∧
      (t.detach handles handles).engine.argumentFilters.entries =
        s.engine.argumentFilters.entries.filter (fun e => e.1 ∉ commandHandles) ∧
      ((t.detach handles handles).SameFilters s ↔
        (∀ e ∈ s.engine.commandFilters.entries, e.1 ∉ argumentHandles) ∧
          ∀ e ∈ s.engine.argumentFilters.entries, e.1 ∉ commandHandles) := by
  refine ⟨Session.numbered_applyTo hs hok, ?_⟩
  obtain ⟨r, hr, rfl, rfl⟩ := applyTo_ok hok
  have hcommands := s.engine.commandFilters.extendedBy_addAll r.commandFilters
  have harguments := s.engine.argumentFilters.extendedBy_addAll r.argumentFilters
  refine ⟨r, _, _, standsFor_of_resolve hr, rfl, hcommands, harguments, ?_⟩
  simp only [Session.sameFilters_iff, Session.detach_eq]
  have hcommandsLeft := hcommands.entries_removeAll_of_mem_iff hs.commands
    (fun _ => List.mem_append (t := (s.restrict p r).2.2))
  have hargumentsLeft := harguments.entries_removeAll_of_mem_iff hs.arguments
    (fun _ => List.mem_append.trans (or_comm (a := _ ∈ (s.restrict p r).2.1)))
  refine ⟨⟨hcommands.entries_removeAll_self hs.commands,
    harguments.entries_removeAll_self hs.arguments⟩, hcommandsLeft, hargumentsLeft, ?_⟩
  refine and_congr ?_ ?_
  · rw [← Chain.entries_removeAll_eq_iff, Chain.entries_removeAll, ← hcommandsLeft]
    rfl
  · rw [← Chain.entries_removeAll_eq_iff, Chain.entries_removeAll, ← hargumentsLeft]
    rfl

/-- A session with filters attached and detached before, and a profile with three filters. Their
handles, given to their own chains, leave the filters from before; given to both chains, they detach
a filter on arguments from before as well. -/
theorem filters_are_taken_away_exam :
    let types : ArgumentFilter := .types [.number]
    let moves : List Session.Move := [.addCommandFilter (.cas false), .addArgumentFilter types,
      .addCommandFilter (.gate .text false), .addArgumentFilter (.count 1 none),
      .removeCommandFilter ⟨0⟩, .addArgumentFilter types, .removeArgumentFilter ⟨0⟩]
    let s := Session.initial.afterAll moves
    let p : Profile := { Profile.default with
      commands := { allowed := some ["Point", "Sum"], casAllowed := false, deniedCategories := [] }
      arguments := { least := some 2, greatest := none } }
    ∃ t log, p.applyTo s = .ok (t, [⟨2⟩, ⟨3⟩, ⟨3⟩], log) ∧
      (t.detach [⟨2⟩, ⟨3⟩] [⟨3⟩]).SameFilters s ∧
      (t.detach [⟨2⟩, ⟨3⟩, ⟨3⟩] [⟨2⟩, ⟨3⟩, ⟨3⟩]).engine.argumentFilters.entries =
        [(⟨1⟩, .count 1 none)] ∧
      ¬ (t.detach [⟨2⟩, ⟨3⟩, ⟨3⟩] [⟨2⟩, ⟨3⟩, ⟨3⟩]).SameFilters s := by
  intro types moves s p
  have hs : s.Numbered := Session.numbered_afterAll Session.numbered_initial moves
  have hok : ∃ t log, p.applyTo s = .ok (t, [⟨2⟩, ⟨3⟩, ⟨3⟩], log) := ⟨_, _, rfl⟩
  obtain ⟨t, log, hok⟩ := hok
  obtain ⟨-, r, commandHandles, argumentHandles, hr, hsplit, -, harguments, hown, -, hleft, hiff⟩ :=
    filters_are_taken_away hs hok
  have hlength : [(⟨3⟩ : Handle)].length = argumentHandles.length := by
    rw [harguments.length_eq, hr.argumentFilters]
    rfl
  have hsplit : [⟨2⟩, ⟨3⟩] ++ [⟨3⟩] = commandHandles ++ argumentHandles := hsplit
  obtain ⟨rfl, rfl⟩ := List.append_inj' hsplit hlength
  have hentries : s.engine.argumentFilters.entries = [(⟨1⟩, .count 1 none), (⟨2⟩, types)] := rfl
  refine ⟨t, log, hok, hown, hleft, fun hsame => ?_⟩
  have hmem : (⟨2⟩, types) ∈ s.engine.argumentFilters.entries := by simp [hentries]
  exact (hiff.mp hsame).2 _ hmem List.mem_cons_self

/-- A session with one filter, by which a command is refused, and a profile with one filter on
arguments. Both have the same handle, each in its chain: given to both chains, the handle of the
profile detaches the filter from before as well, and the command is no longer refused. -/
theorem handle_is_hit_in_both_chains :
    let s := Session.initial.addCommandFilter (.gate .statistics false)
    let p : Profile := { Profile.default with arguments := { least := none, greatest := some 3 } }
    let arguments : List Value := [.number (.int 1), .number (.int 2)]
    s.Numbered ∧ ∃ t log, p.applyTo s = .ok (t, [⟨0⟩], log) ∧
      ¬ (t.detach [⟨0⟩] [⟨0⟩]).SameFilters s ∧
      (s.call "Sum" arguments .standard).answer = .error (.commandNotAllowed "Sum") ∧
      ((t.detach [⟨0⟩] [⟨0⟩]).call "Sum" arguments .standard).answer =
        .ok [.number (.int 3)] := by
  intro s p arguments
  refine ⟨Session.numbered_initial.after (.addCommandFilter _), _, _, rfl, fun hsame => ?_, rfl, rfl⟩
  cases hsame.commands

end Profile

end GeoScript
