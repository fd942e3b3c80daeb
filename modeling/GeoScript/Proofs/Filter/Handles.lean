import GeoScript.Filter.Chain
import GeoScript.Filter.Commands
import Mathlib.Algebra.Group.Nat.Defs
import Mathlib.Data.List.Range

/-! # Handles over the life of a chain

A chain starts without filters. Then filters are attached and handles are given back in any order:
twice, before they were given, or without ever having been given by this chain. What the chain
holds in the end is told by the history alone: the filters that were attached and not detached
afterwards.

* `Chain.Move`, `Chain.run`: what is done with a chain, and what it answers to some moves.
* `Chain.attached`, `Chain.given`: what a history tells, whatever the chain does.
* `Chain.Tracks`: a chain is as its history tells. `Tracks.step` is the step, `Tracks.run` the run.
* `Chain.handles_stay_apart`: the main statement. -/

namespace GeoScript.Filter.Chain

variable {α : Type}

/-! ### Moves and histories -/

/-- What is done with a chain. The handle to detach may be any. -/
inductive Move (α : Type) where
  | add (filter : α)
  | remove (handle : Handle)

/-- A move with its answer: the handle of the filter, or whether a filter was detached. -/
inductive Record (α : Type) where
  | added (handle : Handle) (filter : α)
  | removed (handle : Handle) (found : Bool)

/-- Whether a move attaches a filter. -/
def Move.isAdd : Move α → Bool
  | .add _ => true
  | .remove _ => false

/-- The chain after a move. -/
def after (chain : Chain α) : Move α → Chain α
  | .add filter => chain.add filter
  | .remove handle => chain.remove handle

/-- A move with the answer of the chain. -/
def record (chain : Chain α) : Move α → Record α
  | .add filter => .added chain.nextHandle filter
  | .remove handle => .removed handle (chain.holds handle)

/-- The chain after some moves, and their history. -/
def run (chain : Chain α) : List (Move α) → Chain α × List (Record α)
  | [] => (chain, [])
  | move :: moves =>
    let (last, history) := (chain.after move).run moves
    (last, chain.record move :: history)

/-! ### What a history tells -/

/-- The handle that was given, if a filter was attached. -/
def Record.given? : Record α → Option Handle
  | .added handle _ => some handle
  | .removed _ _ => none

/-- Whether a handle was given back, whatever the answer was. -/
def Record.givesBack (handle : Handle) : Record α → Bool
  | .added _ _ => false
  | .removed other _ => other == handle

/-- The handles that were given, in order. -/
def given (history : List (Record α)) : List Handle := history.filterMap Record.given?

/-- The filters that were attached and whose handles were not given back afterwards, in the order of
their attachment. -/
def attached : List (Record α) → List (Handle × α)
  | [] => []
  | .added handle filter :: history =>
    if history.any (Record.givesBack handle) then attached history
    else (handle, filter) :: attached history
  | .removed _ _ :: history => attached history

theorem attached_added (history : List (Record α)) (handle : Handle) (filter : α) :
    attached (history ++ [.added handle filter]) = attached history ++ [(handle, filter)] := by
  induction history with
  | nil => rfl
  | cons r history ih =>
    cases r with
    | removed other found => exact ih
    | added other f =>
      simp only [List.cons_append, attached, List.any_append, ih]
      have hnot : [Record.added handle filter].any (Record.givesBack other) = false := rfl
      rw [hnot, Bool.or_false]
      split <;> rfl

theorem attached_removed (history : List (Record α)) (handle : Handle) (found : Bool) :
    attached (history ++ [.removed handle found]) =
      (attached history).filter fun e => e.1 != handle := by
  induction history with
  | nil => rfl
  | cons r history ih =>
    cases r with
    | removed other f => exact ih
    | added other f =>
      have hlast : [Record.removed (α := α) handle found].any (Record.givesBack other) =
          (handle == other) := Bool.or_false _
      simp only [List.cons_append, attached, List.any_append, hlast, ih]
      by_cases hback : history.any (Record.givesBack other) = true
      · simp [hback]
      · by_cases hother : handle = other
        · simp [hback, hother]
        · simp [hback, hother, Ne.symm hother]

theorem attached_sublist (history : List (Record α)) :
    ((attached history).map Prod.fst).Sublist (given history) := by
  induction history with
  | nil => exact .slnil
  | cons r history ih =>
    cases r with
    | removed other found => exact ih
    | added handle filter =>
      have hgiven : given (.added handle filter :: history) = handle :: given history := rfl
      rw [attached, hgiven]
      split
      · exact ih.cons handle
      · exact ih.cons_cons handle

/-! ### Chains and their histories -/

/-- A chain holds what its history tells, its handles were numbered in order, and whenever a handle
was given back, the answer told whether its filter was attached. -/
structure Tracks (chain : Chain α) (history : List (Record α)) : Prop where
  entries : chain.entries = attached history
  numbers : (given history).map Handle.number = List.range chain.next
  answers : ∀ before handle found later, history = before ++ .removed handle found :: later →
    (found = true ↔ ∃ filter, (handle, filter) ∈ attached before)

theorem tracks_empty : (empty : Chain α).Tracks [] where
  entries := rfl
  numbers := rfl
  answers before handle found later h := by simp at h

section Tracks

variable {chain : Chain α} {history : List (Record α)} (h : chain.Tracks history)

include h

theorem Tracks.holds_iff (handle : Handle) :
    chain.holds handle = true ↔ ∃ filter, (handle, filter) ∈ attached history := by
  rw [holds, List.any_eq_true, h.entries]
  constructor
  · rintro ⟨⟨other, filter⟩, hmem, heq⟩
    exact ⟨filter, beq_iff_eq.mp heq ▸ hmem⟩
  · rintro ⟨filter, hmem⟩
    exact ⟨_, hmem, beq_self_eq_true handle⟩

/-- **A move is tracked,** with its answer at the end of the history. -/
theorem Tracks.step (move : Move α) :
    (chain.after move).Tracks (history ++ [chain.record move]) where
  entries := by
    cases move with
    | add filter => rw [record, attached_added, ← h.entries]; rfl
    | remove handle => rw [record, attached_removed, ← h.entries]; rfl
  numbers := by
    rw [given, List.filterMap_append, List.map_append]
    have hnumbers := h.numbers
    rw [given] at hnumbers
    cases move with
    | add filter => rw [hnumbers]; exact List.range_succ.symm
    | remove handle => rw [hnumbers]; exact List.append_nil _
  answers before handle found later heq := by
    rcases List.eq_nil_or_concat later with rfl | ⟨later, r, rfl⟩
    · -- the removal is the move itself
      obtain ⟨rfl, hlast⟩ := List.append_inj' heq rfl
      cases move with
      | add filter => cases hlast
      | remove other =>
        cases hlast
        exact h.holds_iff handle
    · rw [List.concat_eq_append, ← List.cons_append, ← List.append_assoc] at heq
      exact h.answers before handle found later (List.append_inj' heq rfl).1

/-- **Any number of moves is tracked.** -/
theorem Tracks.run (moves : List (Move α)) :
    (chain.run moves).1.Tracks (history ++ (chain.run moves).2) := by
  induction moves generalizing chain history with
  | nil => exact (List.append_nil history).symm ▸ h
  | cons move moves ih =>
    have hrest := ih (h.step move)
    rwa [List.append_assoc] at hrest

/-- The handles that are given go up, and so do those of the filters that are attached. -/
theorem Tracks.pairwise_given :
    (given history).Pairwise fun a b => a.number < b.number := by
  have hrange := List.pairwise_lt_range (n := chain.next)
  rw [← h.numbers, List.pairwise_map] at hrange
  exact hrange

theorem Tracks.pairwise_entries :
    chain.entries.Pairwise fun a b => a.1.number < b.1.number := by
  have hattached := h.pairwise_given.sublist (attached_sublist history)
  rwa [List.pairwise_map, ← h.entries] at hattached

theorem Tracks.number_lt : ∀ handle ∈ given history, handle.number < chain.next := by
  intro handle hmem
  have hnumber : handle.number ∈ (given history).map Handle.number := List.mem_map_of_mem hmem
  rwa [h.numbers, List.mem_range] at hnumber

end Tracks

theorem entries_remove_of_mem {chain : Chain α} {handle : Handle} {filter : α}
    {before later : List (Handle × α)}
    (hup : chain.entries.Pairwise fun a b => a.1.number < b.1.number)
    (hsplit : chain.entries = before ++ (handle, filter) :: later) :
    (chain.remove handle).entries = before ++ later := by
  rw [hsplit, List.pairwise_append, List.pairwise_cons] at hup
  obtain ⟨-, ⟨hlater, -⟩, hbefore⟩ := hup
  have hkeep : ∀ e : Handle × α, e.1.number ≠ handle.number → (e.1 != handle) = true := by
    intro e hne
    exact bne_iff_ne.mpr fun heq => hne (congrArg Handle.number heq)
  have hb : before.filter (fun e => e.1 != handle) = before := by
    rw [List.filter_eq_self]
    intro e he
    have hlt : e.1.number < handle.number := hbefore e he _ List.mem_cons_self
    exact hkeep e (by omega)
  have hl : later.filter (fun e => e.1 != handle) = later := by
    rw [List.filter_eq_self]
    intro e he
    have hlt : handle.number < e.1.number := hlater e he
    exact hkeep e (by omega)
  rw [remove, hsplit, List.filter_append, List.filter_cons_of_neg (by simp), hb, hl]

theorem remove_of_not_holds {chain : Chain α} {handle : Handle}
    (h : chain.holds handle = false) : chain.remove handle = chain := by
  rw [holds, List.any_eq_false] at h
  have hkeep : chain.entries.filter (fun e => e.1 != handle) = chain.entries := by
    rw [List.filter_eq_self]
    intro e he
    simpa using h e he
  rw [remove, hkeep]

theorem next_run (chain : Chain α) (moves : List (Move α)) :
    (chain.run moves).1.next = chain.next + moves.countP Move.isAdd := by
  induction moves generalizing chain with
  | nil => rfl
  | cons move moves ih =>
    rw [run, ih, List.countP_cons]
    cases move with
    | add filter => simp only [after, add, Move.isAdd, if_true]; omega
    | remove handle => simp [after, remove, Move.isAdd]

/-! ### The main statement -/

/-- **Handles stay apart, and each means its filter as long as that is attached.** Some moves, which
attach fewer than 2⁶⁴ filters, are made on a chain without filters. Every handle that is given is
numbered higher than all given before, with a number of 64 bits; so are the handles in the chain, in
the order of their filters. The chain holds exactly the filters that were attached and not detached
afterwards, in the order of their attachment. Whenever a handle was given back, the answer was
whether its filter was still attached; and whatever handle is given back next, the answer is the
same, the filter is taken out from between the others if there is one, and nothing happens if there
is none. -/
theorem handles_stay_apart (moves : List (Move α)) (hfew : moves.countP Move.isAdd < 2 ^ 64) :
    let chain := (empty.run moves).1
    let history := (empty.run moves).2
    ((given history).Pairwise fun a b => a.number < b.number) ∧
    (given history).length = moves.countP Move.isAdd ∧
    (∀ handle ∈ given history, handle.number < 2 ^ 64) ∧ chain.next < 2 ^ 64 ∧
    chain.nextHandle ∉ given history ∧
    (chain.entries.Pairwise fun a b => a.1.number < b.1.number) ∧
    chain.entries = attached history ∧ chain.filters = (attached history).map Prod.snd ∧
    (∀ before handle found later, history = before ++ .removed handle found :: later →
      (found = true ↔ ∃ filter, (handle, filter) ∈ attached before)) ∧
    (∀ handle, chain.holds handle = true ↔ ∃ filter, (handle, filter) ∈ attached history) ∧
    (∀ handle filter before later, chain.entries = before ++ (handle, filter) :: later →
      (chain.remove handle).entries = before ++ later) ∧
    ∀ handle, chain.holds handle = false → chain.remove handle = chain := by
  intro chain history
  have h : chain.Tracks history := tracks_empty.run moves
  have hnext : chain.next = moves.countP Move.isAdd := by
    have hrun := next_run (empty : Chain α) moves
    rwa [empty, Nat.zero_add] at hrun
  have hlength : (given history).length = chain.next := by
    rw [← List.length_map Handle.number, h.numbers, List.length_range]
  refine ⟨h.pairwise_given, hlength.trans hnext, fun handle hmem => ?_, by omega, fun hmem => ?_,
    h.pairwise_entries, h.entries, by rw [filters, h.entries], h.answers, h.holds_iff,
    fun handle filter before later => entries_remove_of_mem h.pairwise_entries,
    fun handle => remove_of_not_holds⟩
  · have hlt := h.number_lt handle hmem
    omega
  · exact Nat.lt_irrefl _ (h.number_lt _ hmem)

/-- A handle is given back twice, and one before it is given: the filter that gets it afterwards
stays. -/
theorem handles_stay_apart_given_back :
    let moves : List (Move CommandFilter) := [.add (.cas false), .remove ⟨2⟩,
      .add (.gate .text false), .remove ⟨0⟩, .remove ⟨0⟩, .add (.only [.point])]
    let chain := (empty.run moves).1
    given (empty.run moves).2 = [⟨0⟩, ⟨1⟩, ⟨2⟩] ∧
    chain.filters = [.gate .text false, .only [.point]] ∧
    chain.holds ⟨0⟩ = false ∧ (chain.remove ⟨1⟩).entries = [(⟨2⟩, .only [.point])] := by
  intro moves chain
  have hfew : moves.countP Move.isAdd < 2 ^ 64 := by decide
  obtain ⟨-, -, -, -, -, -, -, hfilters, -, hholds, hremove, -⟩ := handles_stay_apart moves hfew
  refine ⟨rfl, hfilters, ?_, hremove ⟨1⟩ (.gate .text false) [] [(⟨2⟩, .only [.point])] rfl⟩
  rw [Bool.eq_false_iff]
  intro hheld
  obtain ⟨filter, hmem⟩ := (hholds ⟨0⟩).mp hheld
  simp [moves, empty, run, record, after, add, remove, nextHandle, attached, holds,
    Record.givesBack] at hmem

end GeoScript.Filter.Chain
